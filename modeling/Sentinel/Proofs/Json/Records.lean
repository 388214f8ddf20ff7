import Sentinel.Proofs.Json.Finding
/-!
# Records that are read back

Jobs, findings and results are read from the JSON texts that are written of them. What a record does not
have is left out of its text, and a text with the same members in another order, or with further members
of names that the record does not know, is read as the same record.

1. `ScanJob.readsAnyhow`, `ScanResult.readsAnyhow`: reading a job and a result, as a finding is read.
2. `Shows`: the members that a text has.
3. `records_read_back`: the three records.
-/

namespace Sentinel

namespace ScanJob

def names : List String := ["path", "index", "userId", "propertyType"]

def documents (j : ScanJob) : List (String × Document) :=
  ("path", .string (some j.path)) ::
    ((j.index.map fun i => ("index", Document.number (Document.numberOf i))).toList ++
      ((j.userId.map fun u => ("userId", Document.string (some u))).toList ++
        [("propertyType", .string (some j.propertyType.canonicalName))]))

theorem stands_documents (j : ScanJob) : List.Forall₂ Json.Stands j.toJson.members j.documents := by
  obtain ⟨path, index, userId, propertyType⟩ := j
  cases index <;> cases userId <;> exact Json.memberDocuments?_eq_some_iff.mp rfl

theorem map_fst_documents (j : ScanJob) : (j.documents.map (·.1)).Sublist names ∧
    ("index" ∈ j.documents.map (·.1) ↔ j.index.isSome) ∧
    ("userId" ∈ j.documents.map (·.1) ↔ j.userId.isSome) := by
  obtain ⟨path, index, userId, propertyType⟩ := j
  cases index <;> cases userId <;> simp [documents, names]

theorem ofDocument?_of_agrees {j : ScanJob} (h : ∀ i ∈ j.index, i < UInt64.size) {d : Document}
    {f : Document.Fields} (hd : d.fields? names = some f) (hf : f.Agrees ⟨false, j.documents⟩) :
    ofDocument? d = some j := by
  obtain ⟨path, index, userId, propertyType⟩ := j
  have hindex : ∀ i ∈ index, (Document.number (Document.numberOf i)).word? = some i :=
    fun i hi => Document.word?_numberOf (h i hi)
  clear h
  have hfields : d.fields? ["path", "index", "userId", "propertyType"] = some f := hd
  rw [ofDocument?, hfields]
  simp only [Option.bind_eq_bind, Option.bind_some, hf.required, hf.optional]
  cases index <;> cases userId <;>
    simp [documents, Document.Fields.required, Document.Fields.optional, Document.Fields.find?,
      Document.nullable?, Document.text?, hindex, PropertyType.ofDocument?_canonicalName]

theorem readsAnyhow {j : ScanJob} (h : ∀ i ∈ j.index, i < UInt64.size) :
    ReadsAnyhow parse? names j.toJson j := by
  obtain ⟨hnames, -⟩ := j.map_fst_documents
  refine .of_fields j.stands_documents (fun e he => hnames.subset (List.mem_map_of_mem he)) ?_
    fun d f => ofDocument?_of_agrees h
  exact hnames.nodup (by decide)

end ScanJob

namespace ScanResult

def names : List String := ["status", "message", "started", "timestamp", "size"]

def documents (r : ScanResult) : List (String × Document) :=
  [("status", .string (some r.status.canonicalName)), ("message", .string (some r.message)),
    ("started", .number (Document.numberOf r.started.millis)),
    ("timestamp", .number (Document.numberOf r.timestamp.millis)),
    ("size", .number (Document.numberOf r.size))]

theorem instant?_numberOf (t : Instant) : instant? (.number (Document.numberOf t.millis)) = some t := by
  have hmin : Int64.minValue.toInt = -9223372036854775808 := by decide
  have hsize : UInt64.size = 18446744073709551616 := rfl
  obtain ⟨hlo, hhi⟩ := t.inRange
  rw [instant?, Document.intWithin?_numberOf (by omega) (by omega) (by omega), Option.bind_some,
    Instant.ofMillis?_millis]

theorem ofDocument?_of_agrees {r : ScanResult} (h : r.size < UInt64.size) {d : Document}
    {f : Document.Fields} (hd : d.fields? names = some f) (hf : f.Agrees ⟨false, r.documents⟩) :
    ofDocument? d = some r := by
  have hsize : (Document.number (Document.numberOf r.size)).word? = some r.size := Document.word?_numberOf h
  have hfields : d.fields? ["status", "message", "started", "timestamp", "size"] = some f := hd
  rw [ofDocument?, hfields]
  simp only [Option.bind_eq_bind, Option.bind_some, hf.required]
  simp [documents, Document.Fields.required, Document.Fields.find?, Document.text?, instant?_numberOf, hsize,
    ScanStatus.ofDocument?_canonicalName]

theorem readsAnyhow {r : ScanResult} (h : r.size < UInt64.size) :
    ReadsAnyhow parse? names r.toJson r := by
  have hstands : List.Forall₂ Json.Stands r.toJson.members r.documents :=
    Json.memberDocuments?_eq_some_iff.mp rfl
  refine .of_fields hstands (fun e he => ?_) ?_ fun d f => ofDocument?_of_agrees h
  · exact (List.Sublist.refl names).subset (List.mem_map_of_mem (f := (·.1)) he)
  · show names.Nodup
    decide

end ScanResult

/-- The text of an object has a member of a name exactly if `shown`. -/
def Shows (j : Json) (name : String) (shown : Prop) : Prop :=
  ∃ ms, Document.parse? j.compact = some (.object ms) ∧ (some name ∈ ms.map (·.1) ↔ shown)

theorem shows_of_stands {own : List (String × Json)} {ds : List (String × Document)} {name : String}
    {shown : Prop} (hown : List.Forall₂ Json.Stands own ds) (hshown : name ∈ ds.map (·.1) ↔ shown) :
    Shows (.object own) name shown := by
  refine ⟨_, Document.parse?_compact (Json.document?_object hown), ?_⟩
  rw [← hshown, List.map_map]
  simp

/-- Jobs, findings and results whose numbers have 64 bits are read from their texts, which leave out what
is absent, and from every text of the same members in another order and among others of names that they
do not know. -/
theorem records_read_back :
    (∀ j : ScanJob, (∀ i ∈ j.index, i < UInt64.size) →
      ScanJob.parse? j.toJson.compact = some j ∧ Shows j.toJson "index" j.index.isSome ∧
        Shows j.toJson "userId" j.userId.isSome ∧ ReadsAnyhow ScanJob.parse? ScanJob.names j.toJson j) ∧
    (∀ f : Finding, f.FitsWords →
      Finding.parse? f.toJson.compact = some f ∧ Shows f.toJson "index" f.index.isSome ∧
        Shows f.toJson "userId" f.userId.isSome ∧ ReadsAnyhow Finding.parse? Finding.names f.toJson f) ∧
    ∀ r : ScanResult, r.size < UInt64.size →
      ScanResult.parse? r.toJson.compact = some r ∧
        ReadsAnyhow ScanResult.parse? ScanResult.names r.toJson r := by
  refine ⟨fun j hj => ?_, fun f hf => ?_, fun r hr => ?_⟩
  · obtain ⟨-, hindex, huser⟩ := j.map_fst_documents
    exact ⟨(ScanJob.readsAnyhow hj).parse?_compact, shows_of_stands j.stands_documents hindex,
      shows_of_stands j.stands_documents huser, ScanJob.readsAnyhow hj⟩
  · obtain ⟨-, hindex, huser⟩ := f.map_fst_documents
    exact ⟨Finding.parse?_toJson hf, shows_of_stands f.stands_documents hindex,
      shows_of_stands f.stands_documents huser, Finding.readsAnyhow hf⟩
  · exact ⟨(ScanResult.readsAnyhow hr).parse?_compact, ScanResult.readsAnyhow hr⟩

/-- A job without index and user behind the smallest binary number, a finding with the greatest numbers,
and a result at the start of 1970. -/
theorem records_read_back_strange :
    ScanJob.parse? (Json.object [("zone", .array [.number (.real ⟨true, 1, -1074⟩), .null]),
      ("propertyType", .string "URI"), ("path", .string "/a\"\n\x01é")]).compact =
        some ⟨"/a\"\n\x01é", none, none, .uri⟩ ∧
      Finding.parse? (Finding.toJson ⟨-9223372036854775808, .error, "", 9223372036854775807,
        18446744073709551615, "/p", some 0, .binary, some "u"⟩).compact =
          some ⟨-9223372036854775808, .error, "", 9223372036854775807, 18446744073709551615, "/p", some 0,
            .binary, some "u"⟩ ∧
      ScanResult.parse? (ScanResult.toJson ⟨.infected, "x", .epoch, .epoch, 1⟩).compact =
        some ⟨.infected, "x", .epoch, .epoch, 1⟩ := by
  obtain ⟨hjob, hfinding, hresult⟩ := records_read_back
  refine ⟨?_, (hfinding _ ⟨by decide, by decide, by decide, ?_⟩).1, (hresult _ (by decide)).1⟩
  · obtain ⟨-, -, -, hread⟩ := hjob ⟨"/a\"\n\x01é", none, none, .uri⟩ fun i hi => nomatch hi
    refine hread [("zone", .array [.number (.real ⟨true, 1, -1074⟩), .null])] _ ?_ ?_
    · intro m hm
      obtain rfl := List.mem_singleton.mp hm
      refine ⟨by decide, .array fun j hj => ?_⟩
      rcases List.mem_pair.mp hj with rfl | rfl
      · exact .real (by decide)
      · exact .null
    · exact List.reverse_perm [("path", Json.string "/a\"\n\x01é"), ("propertyType", Json.string "URI"),
        ("zone", Json.array [.number (.real ⟨true, 1, -1074⟩), .null])]
  · rintro i ⟨⟩
    decide

end Sentinel
