import Sentinel.Proofs.Json.Number
import Sentinel.Proofs.Json.Scalar
/-!
# JSON texts that are read back

The compact text of a value is read as the tree of the value, if its binary numbers are finite.

1. `document?`: the tree of a value.
2. `readValue_chars`, `readItems_itemChars`, `readMembers_memberChars`: reading a written value, and
   what stands behind it.
3. `parse?_compact`: reading a whole text.
-/

namespace Sentinel

namespace Json

/-- A number as it is written, absent where its exponent or mantissa is beyond the format. -/
def written? : JsonNumber → Option NumberText
  | .int i => some (Document.numberOf i)
  | .real x => if x.IsFinite then some x.written else none

theorem numberText_of_written? {n : JsonNumber} {t : NumberText} (ht : written? n = some t) :
    numberText n = t.chars ∧ t.IsWritten := by
  cases n with
  | int i =>
    cases ht
    exact ⟨(Document.chars_numberOf i).symm, Document.isWritten_numberOf i⟩
  | real x =>
    rw [written?] at ht
    split at ht
    · next hx =>
      cases ht
      exact ⟨x.text_eq_chars, Decimal.Binary64.isWritten_written hx⟩
    · cases ht

mutual

/-- The tree of a value whose numbers can be written. -/
def document? : Json → Option Document
  | .null => some .null
  | .bool b => some (.bool b)
  | .number n => (written? n).map .number
  | .string s => some (.string (some s))
  | .array items => (itemDocuments? items).map .array
  | .object members => (memberDocuments? members).map .object

def itemDocuments? : List Json → Option (List Document)
  | [] => some []
  | j :: js => (document? j).bind fun d => (itemDocuments? js).map (d :: ·)

def memberDocuments? : List (String × Json) → Option (List (Option String × Document))
  | [] => some []
  | (k, j) :: ms => (document? j).bind fun d => (memberDocuments? ms).map ((some k, d) :: ·)

end

theorem itemChars_cons_cons (j j' : Json) (js : List Json) :
    itemChars (j :: j' :: js) = chars j ++ ',' :: itemChars (j' :: js) := rfl

theorem memberChars_cons_cons (k : String) (j : Json) (m : String × Json) (ms : List (String × Json)) :
    memberChars ((k, j) :: m :: ms) = quoted k ++ ':' :: (chars j ++ ',' :: memberChars (m :: ms)) := rfl

end Json

namespace Document

open Json

theorem skipSpace_cons {c : Char} (hc : isSpace c = false) (cs : List Char) :
    skipSpace (c :: cs) = c :: cs := List.dropWhile_cons_of_neg (by simp [hc])

theorem exists_whole {ds : List Char} (h : Text.IsWhole ds) : ∃ c cs, ds = c :: cs ∧ c.isDigit = true := by
  rcases h with rfl | ⟨hne, -, hall⟩
  · exact ⟨'0', [], rfl, rfl⟩
  · obtain ⟨c, cs, rfl⟩ := List.exists_cons_of_ne_nil hne
    exact ⟨c, cs, rfl, (Bool.and_eq_true_iff.mp hall).1⟩

theorem ne_of_isDigit {c d : Char} (hc : c.isDigit = true) (hd : d.isDigit = false) : c ≠ d := by
  rintro rfl
  cases hd.symm.trans hc

theorem isSpace_of_isDigit {c : Char} (hc : c.isDigit = true) : isSpace c = false := by
  have hspace : ∀ d, isSpace d = true → d.isDigit = false := by
    intro d hd
    simp only [isSpace, Bool.or_eq_true, beq_iff_eq] at hd
    rcases hd with ((rfl | rfl) | rfl) | rfl <;> rfl
  exact Bool.eq_false_iff.mpr fun h => ne_of_isDigit hc (hspace c h) rfl

theorem readValue_number (fuel : Nat) {n : NumberText} (hn : n.IsWritten) {rest : List Char}
    (hrest : EndsNumber rest) : readValue (fuel + 1) (n.chars ++ rest) = some (.number n, rest) := by
  have hread := readNumber_chars hn hrest
  rw [NumberText.chars]
  split
  · next hnegative =>
    rw [hnegative] at hread
    rw [List.cons_append, readValue, skipSpace_cons (by decide)]
    exact hread
  · next hnegative =>
    rw [Bool.eq_false_iff.mpr hnegative, NumberText.unsignedChars] at hread
    obtain ⟨c, cs, hc, hdigit⟩ := exists_whole hn.whole
    rw [← hread, NumberText.unsignedChars, hc, List.append_assoc, List.cons_append, readValue,
      skipSpace_cons (isSpace_of_isDigit hdigit)]
    -- A digit opens no value of another kind.
    split
    all_goals first
      | rename_i h; exact absurd (List.cons.inj h).1 (ne_of_isDigit hdigit rfl)
      | rfl

theorem readValue_quoted (fuel : Nat) (s : String) (rest : List Char) :
    readValue (fuel + 1) (quoted s ++ rest) = some (.string (some s), rest) := by
  rw [quoted, List.cons_append, List.append_assoc, List.singleton_append, readValue,
    skipSpace_cons (by decide)]
  simp only [readString_escaped, Option.map_some]

/-- A written value begins with no blank, and with nothing that ends an array. -/
theorem exists_chars {j : Json} {d : Document} (hd : j.document? = some d) :
    ∃ c cs, j.chars = c :: cs ∧ isSpace c = false ∧ c ≠ ']' := by
  match j, hd with
  | .null, _ => exact ⟨'n', _, rfl, rfl, by decide⟩
  | .bool b, _ => cases b <;> exact ⟨_, _, rfl, rfl, by decide⟩
  | .number n, hd =>
    obtain ⟨t, ht, rfl⟩ := Option.map_eq_some_iff.mp hd
    obtain ⟨htext, hwritten⟩ := numberText_of_written? ht
    rw [chars, htext, NumberText.chars]
    split
    · exact ⟨'-', _, rfl, rfl, by decide⟩
    · obtain ⟨c, cs, hc, hdigit⟩ := exists_whole hwritten.whole
      rw [NumberText.unsignedChars, hc]
      exact ⟨c, _, rfl, isSpace_of_isDigit hdigit, ne_of_isDigit hdigit rfl⟩
  | .string s, _ => exact ⟨'"', _, rfl, rfl, by decide⟩
  | .array items, _ => exact ⟨'[', _, rfl, rfl, by decide⟩
  | .object members, _ => exact ⟨'\x7b', _, rfl, rfl, by decide⟩

theorem exists_itemChars {j : Json} (js : List Json) {ds : List Document}
    (hds : itemDocuments? (j :: js) = some ds) :
    ∃ c cs, itemChars (j :: js) = c :: cs ∧ isSpace c = false ∧ c ≠ ']' := by
  obtain ⟨d, hd, -⟩ := Option.bind_eq_some_iff.mp hds
  obtain ⟨c, cs, hc, hfirst⟩ := exists_chars hd
  rcases js with _ | ⟨j', js⟩
  · exact ⟨c, cs, hc, hfirst⟩
  · exact ⟨c, cs ++ ',' :: itemChars (j' :: js), by rw [itemChars_cons_cons, hc, List.cons_append], hfirst⟩

theorem readValue_bracket {fuel : Nat} {c : Char} {cs : List Char} (hspace : isSpace c = false)
    (hend : c ≠ ']') : readValue (fuel + 1) ('[' :: c :: cs) = readItems fuel [] (c :: cs) := by
  rw [readValue, skipSpace_cons (by decide)]
  simp only [skipSpace_cons hspace]
  split
  · next h => exact absurd (List.cons.inj h).1 hend
  · rfl

theorem endsNumber_cons {c : Char} (cs : List Char)
    (hc : c.isDigit = false ∧ c ≠ '.' ∧ c ≠ 'e' ∧ c ≠ 'E') : EndsNumber (c :: cs) := by
  intro d hd
  obtain rfl : c = d := Option.some.inj hd
  exact hc

section

variable {fuel : Nat} {d : Document} {k : String} {cs rest : List Char} {items : List Document}
  {members : List (Option String × Document)}

theorem readItems_last (hvalue : readValue fuel cs = some (d, ']' :: rest)) :
    readItems (fuel + 1) items cs = some (.array (items.reverse ++ [d]), rest) := by
  rw [readItems, hvalue, ← List.reverse_cons]
  rfl

theorem readItems_more (hvalue : readValue fuel cs = some (d, ',' :: rest)) :
    readItems (fuel + 1) items cs = readItems fuel (d :: items) rest := by
  rw [readItems, hvalue]
  rfl

theorem readMembers_last (hvalue : readValue fuel cs = some (d, '\x7d' :: rest)) :
    readMembers (fuel + 1) members (quoted k ++ ':' :: cs) =
      some (.object (members.reverse ++ [(some k, d)]), rest) := by
  rw [quoted, List.cons_append, List.append_assoc, List.singleton_append, readMembers,
    skipSpace_cons (by decide)]
  simp only [readString_escaped, skipSpace_cons (c := ':') (by decide), hvalue,
    skipSpace_cons (c := '\x7d') (by decide), List.reverse_cons]

theorem readMembers_more (hvalue : readValue fuel cs = some (d, ',' :: rest)) :
    readMembers (fuel + 1) members (quoted k ++ ':' :: cs) =
      readMembers fuel ((some k, d) :: members) rest := by
  rw [quoted, List.cons_append, List.append_assoc, List.singleton_append, readMembers,
    skipSpace_cons (by decide)]
  simp only [readString_escaped, skipSpace_cons (c := ':') (by decide), hvalue,
    skipSpace_cons (c := ',') (by decide)]

end

mutual

/-- A value that is written reads back, whatever stands behind it, unless that goes on with a number. -/
theorem readValue_chars : ∀ (j : Json) {d : Document}, j.document? = some d → ∀ {fuel : Nat},
    j.chars.length ≤ fuel → ∀ {rest : List Char}, EndsNumber rest →
      readValue fuel (j.chars ++ rest) = some (d, rest)
  | .null, d, hd, fuel + 1, _, rest, _ => by
    cases hd
    rfl
  | .bool b, d, hd, fuel + 1, _, rest, _ => by
    cases hd
    cases b <;> rfl
  | .number n, d, hd, fuel + 1, _, rest, hrest => by
    obtain ⟨t, ht, rfl⟩ := Option.map_eq_some_iff.mp hd
    obtain ⟨htext, hwritten⟩ := numberText_of_written? ht
    rw [chars, htext]
    exact readValue_number fuel hwritten hrest
  | .string s, d, hd, fuel + 1, _, rest, _ => by
    cases hd
    exact readValue_quoted fuel s rest
  | .array [], d, hd, fuel + 1, _, rest, _ => by
    cases hd
    rfl
  | .array (j :: js), d, hd, fuel + 1, hfuel, rest, _ => by
    obtain ⟨ds, hds, rfl⟩ := Option.map_eq_some_iff.mp hd
    rw [chars, List.length_cons, List.length_append, List.length_singleton] at hfuel
    have hitems := readItems_itemChars (j :: js) (List.cons_ne_nil j js) hds
      (show (itemChars (j :: js)).length < fuel by omega) [] rest
    obtain ⟨c, cs, hcs, hspace, hend⟩ := exists_itemChars js hds
    rw [hcs] at hitems
    rw [chars, hcs, List.cons_append, List.append_assoc, List.singleton_append]
    exact (readValue_bracket hspace hend).trans hitems
  | .object [], d, hd, fuel + 1, _, rest, _ => by
    cases hd
    rfl
  | .object (m :: ms), d, hd, fuel + 1, hfuel, rest, _ => by
    obtain ⟨ds, hds, rfl⟩ := Option.map_eq_some_iff.mp hd
    rw [chars, List.length_cons, List.length_append, List.length_singleton] at hfuel
    have hmembers := readMembers_memberChars (m :: ms) (List.cons_ne_nil m ms) hds
      (show (memberChars (m :: ms)).length < fuel by omega) [] rest
    obtain ⟨cs, hcs⟩ : ∃ cs, memberChars (m :: ms) = '"' :: cs := by
      rcases ms with _ | ⟨m', ms⟩ <;> exact ⟨_, rfl⟩
    rw [hcs] at hmembers
    rw [chars, hcs, List.cons_append, List.append_assoc, List.singleton_append]
    exact hmembers
  | j, d, hd, 0, hfuel, rest, _ => by
    obtain ⟨c, cs, hcs, -⟩ := exists_chars hd
    rw [hcs] at hfuel
    cases hfuel

theorem readItems_itemChars : ∀ (js : List Json), js ≠ [] → ∀ {ds : List Document},
    itemDocuments? js = some ds → ∀ {fuel : Nat}, (itemChars js).length < fuel →
      ∀ (acc : List Document) (rest : List Char),
        readItems fuel acc (itemChars js ++ ']' :: rest) = some (.array (acc.reverse ++ ds), rest)
  | [j], _, ds, hds, fuel + 1, hfuel, acc, rest => by
    obtain ⟨d, hd, hds⟩ := Option.bind_eq_some_iff.mp hds
    cases hds
    exact readItems_last (readValue_chars j hd (Nat.le_of_lt_succ hfuel) (endsNumber_cons rest (by decide)))
  | j :: j' :: js, _, ds, hds, fuel + 1, hfuel, acc, rest => by
    obtain ⟨d, hd, hds⟩ := Option.bind_eq_some_iff.mp hds
    obtain ⟨ds, hds', rfl⟩ := Option.map_eq_some_iff.mp hds
    rw [itemChars_cons_cons, List.length_append, List.length_cons] at hfuel
    have hvalue := readValue_chars j hd (show j.chars.length ≤ fuel by omega)
      (endsNumber_cons (c := ',') (itemChars (j' :: js) ++ ']' :: rest) (by decide))
    have hitems := readItems_itemChars (j' :: js) (List.cons_ne_nil j' js) hds'
      (show (itemChars (j' :: js)).length < fuel by omega) (d :: acc) rest
    rw [itemChars_cons_cons, List.append_assoc, List.cons_append, readItems_more hvalue, hitems, List.reverse_cons,
      List.append_assoc, List.singleton_append]

theorem readMembers_memberChars : ∀ (ms : List (String × Json)), ms ≠ [] →
    ∀ {ds : List (Option String × Document)}, memberDocuments? ms = some ds →
      ∀ {fuel : Nat}, (memberChars ms).length < fuel →
        ∀ (acc : List (Option String × Document)) (rest : List Char),
          readMembers fuel acc (memberChars ms ++ '\x7d' :: rest) =
            some (.object (acc.reverse ++ ds), rest)
  | [(k, j)], _, ds, hds, fuel + 1, hfuel, acc, rest => by
    obtain ⟨d, hd, hds⟩ := Option.bind_eq_some_iff.mp hds
    cases hds
    rw [memberChars, List.length_append, List.length_cons] at hfuel
    rw [memberChars, List.append_assoc, List.cons_append]
    exact readMembers_last (readValue_chars j hd (by omega) (endsNumber_cons rest (by decide)))
  | (k, j) :: m :: ms, _, ds, hds, fuel + 1, hfuel, acc, rest => by
    obtain ⟨d, hd, hds⟩ := Option.bind_eq_some_iff.mp hds
    obtain ⟨ds, hds', rfl⟩ := Option.map_eq_some_iff.mp hds
    rw [memberChars_cons_cons, List.length_append, List.length_cons, List.length_append, List.length_cons]
      at hfuel
    have hvalue := readValue_chars j hd (show j.chars.length ≤ fuel by omega)
      (endsNumber_cons (c := ',') (memberChars (m :: ms) ++ '\x7d' :: rest) (by decide))
    have hmembers := readMembers_memberChars (m :: ms) (List.cons_ne_nil m ms) hds'
      (show (memberChars (m :: ms)).length < fuel by omega) ((some k, d) :: acc) rest
    rw [memberChars_cons_cons, List.append_assoc, List.cons_append, List.append_assoc, List.cons_append,
      readMembers_more hvalue, hmembers, List.reverse_cons, List.append_assoc, List.singleton_append]

end

/-- The compact text of a value reads back as its tree. -/
theorem parse?_compact {j : Json} {d : Document} (hd : j.document? = some d) :
    Document.parse? j.compact = some d := by
  have hends : EndsNumber [] := fun c hc => nomatch hc
  have hread := readValue_chars j hd (Nat.le_succ _) hends
  rw [List.append_nil] at hread
  rw [Document.parse?, compact, String.toList_ofList]
  simp only [hread]
  rfl

end Document

end Sentinel
