import Sentinel.Finding
import Sentinel.Proofs.Json.Members
/-!
# Findings that are read back

1. `readsAnyhow`: a finding whose numbers have 64 bits reads back from its members in any order.
2. `parse?_toJson`: in particular from its own JSON text.
-/

namespace Sentinel

namespace Document

theorem intWithin?_numberOf {lo hi i : Int} (hlo : -(UInt64.size / 2 : Int) ≤ i) (hhi : i < UInt64.size)
    (hbounds : lo ≤ i ∧ i ≤ hi) : (Document.number (numberOf i)).intWithin? lo hi = some i := by
  rw [intWithin?, integer?_numberOf hlo hhi]
  simp [hbounds]

theorem word?_numberOf {n : Nat} (hn : n < UInt64.size) : (Document.number (numberOf n)).word? = some n := by
  rw [word?, intWithin?_numberOf (by omega) (by omega) (by omega)]
  rfl

end Document

theorem ScanStatus.ofDocument?_canonicalName (s : ScanStatus) :
    ScanStatus.ofDocument? (.string (some s.canonicalName)) = some s := s.ofName?_canonicalName

theorem PropertyType.ofDocument?_canonicalName (t : PropertyType) :
    PropertyType.ofDocument? (.string (some t.canonicalName)) = some t := t.ofName?_name

namespace Finding

/-- The numbers of a finding have 64 bits: times are signed, a size and an index are not. -/
structure FitsWords (f : Finding) : Prop where
  timestamp : Int64.minValue.toInt ≤ f.timestamp ∧ f.timestamp ≤ Int64.maxValue.toInt
  started : Int64.minValue.toInt ≤ f.started ∧ f.started ≤ Int64.maxValue.toInt
  size : f.size < UInt64.size
  index : ∀ i ∈ f.index, i < UInt64.size

theorem millis?_numberOf {i : Int} (h : Int64.minValue.toInt ≤ i ∧ i ≤ Int64.maxValue.toInt) :
    millis? (.number (Document.numberOf i)) = some i := by
  have hmin : Int64.minValue.toInt = -9223372036854775808 := by decide
  have hmax : Int64.maxValue.toInt = 9223372036854775807 := by decide
  have hsize : UInt64.size = 18446744073709551616 := rfl
  exact Document.intWithin?_numberOf (by omega) (by omega) h

/-- The members of a finding as they are read. -/
def documents (f : Finding) : List (String × Document) :=
  [("timestamp", .number (Document.numberOf f.timestamp)),
    ("status", .string (some f.status.canonicalName)), ("message", .string (some f.message)),
    ("started", .number (Document.numberOf f.started)), ("size", .number (Document.numberOf f.size)),
    ("path", .string (some f.path))] ++
  ((f.index.map fun i => ("index", Document.number (Document.numberOf i))).toList ++
    (("propertyType", .string (some f.propertyType.canonicalName)) ::
      (f.userId.map fun u => ("userId", Document.string (some u))).toList))

/-- The names of the members of a finding. -/
def names : List String :=
  ["timestamp", "status", "message", "started", "size", "path", "index", "propertyType", "userId"]

theorem stands_documents (f : Finding) : List.Forall₂ Json.Stands f.toJson.members f.documents := by
  obtain ⟨timestamp, status, message, started, size, path, index, propertyType, userId⟩ := f
  cases index <;> cases userId <;> exact Json.memberDocuments?_eq_some_iff.mp rfl

theorem map_fst_documents (f : Finding) : (f.documents.map (·.1)).Sublist names ∧
    ("index" ∈ f.documents.map (·.1) ↔ f.index.isSome) ∧
    ("userId" ∈ f.documents.map (·.1) ↔ f.userId.isSome) := by
  obtain ⟨timestamp, status, message, started, size, path, index, propertyType, userId⟩ := f
  cases index <;> cases userId <;> simp [documents, names]

theorem ofDocument?_of_agrees {f : Finding} (h : f.FitsWords) {d : Document} {g : Document.Fields}
    (hd : d.fields? names = some g) (hg : g.Agrees ⟨false, f.documents⟩) : ofDocument? d = some f := by
  obtain ⟨timestamp, status, message, started, size, path, index, propertyType, userId⟩ := f
  have htimestamp : millis? (.number (Document.numberOf timestamp)) = some timestamp :=
    millis?_numberOf h.timestamp
  have hstarted : millis? (.number (Document.numberOf started)) = some started := millis?_numberOf h.started
  have hsize : (Document.number (Document.numberOf size)).word? = some size := Document.word?_numberOf h.size
  have hindex : ∀ i ∈ index, (Document.number (Document.numberOf i)).word? = some i :=
    fun i hi => Document.word?_numberOf (h.index i hi)
  clear h
  have hfields : d.fields?
      ["timestamp", "status", "message", "started", "size", "path", "index", "propertyType", "userId"] =
        some g := hd
  rw [ofDocument?, hfields]
  simp only [Option.bind_eq_bind, Option.bind_some, hg.required, hg.withDefault]
  cases index <;> cases userId <;>
    simp [documents, Document.Fields.required, Document.Fields.withDefault, Document.Fields.find?,
      Document.nullable?, Document.text?, htimestamp, hstarted, hsize, hindex,
      ScanStatus.ofDocument?_canonicalName, PropertyType.ofDocument?_canonicalName]

theorem readsAnyhow {f : Finding} (h : f.FitsWords) : ReadsAnyhow parse? names f.toJson f := by
  obtain ⟨hnames, -⟩ := f.map_fst_documents
  refine .of_fields f.stands_documents (fun e he => hnames.subset (List.mem_map_of_mem he)) ?_
    fun d g => ofDocument?_of_agrees h
  exact hnames.nodup (by decide)

theorem parse?_toJson {f : Finding} (h : f.FitsWords) : parse? f.toJson.compact = some f :=
  (readsAnyhow h).parse?_compact

end Finding

end Sentinel
