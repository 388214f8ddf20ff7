import Sentinel.Proofs.Json.RoundTrip
/-!
# The characters of JSON texts

No compact text has a control character in it, whatever is in the texts that it is made of.

1. `IsPrinted.escaped`: how a character is written in quotes.
2. `IsPrinted.text`: how a binary number is written.
3. `isPrinted_compact`: a whole text.
-/

namespace Sentinel

/-- No character of a text is a control character. -/
def IsPrinted (cs : List Char) : Prop := ∀ c ∈ cs, 32 ≤ c.toNat

namespace IsPrinted

variable {cs ds : List Char}

@[simp]
theorem nil : IsPrinted [] := fun _ hc => nomatch hc

@[simp]
theorem cons_iff {c : Char} : IsPrinted (c :: cs) ↔ 32 ≤ c.toNat ∧ IsPrinted cs := List.forall_mem_cons

@[simp]
theorem append_iff : IsPrinted (cs ++ ds) ↔ IsPrinted cs ∧ IsPrinted ds := List.forall_mem_append

theorem take (h : IsPrinted cs) (n : Nat) : IsPrinted (cs.take n) :=
  fun c hc => h c (List.mem_of_mem_take hc)

theorem drop (h : IsPrinted cs) (n : Nat) : IsPrinted (cs.drop n) :=
  fun c hc => h c (List.mem_of_mem_drop hc)

theorem zeros (n : Nat) : IsPrinted (List.replicate n '0') := by
  intro c hc
  rw [List.eq_of_mem_replicate hc]
  decide

theorem decimal (n : Nat) : IsPrinted (Text.decimal n) := by
  intro c hc
  have hdigit := List.all_eq_true.mp (Text.all_isDigit_decimal n) c hc
  rw [Char.isDigit, Bool.and_eq_true, decide_eq_true_eq, decide_eq_true_eq] at hdigit
  exact Nat.le_trans (by decide) (UInt32.le_iff_toNat_le.mp hdigit.1)

theorem signedDecimal (i : Int) : IsPrinted (Text.signedDecimal i) := by
  rw [Text.signedDecimal]
  split
  · exact cons_iff.mpr ⟨by decide, decimal _⟩
  · exact decimal _

theorem hexDigits (width n : Nat) : IsPrinted (Text.hexDigits width n) := by
  induction width generalizing n with
  | zero => exact nil
  | succ width ih =>
    have hall : ∀ m < 16, 32 ≤ m.digitChar.toNat := by decide
    rw [Text.hexDigits]
    exact append_iff.mpr ⟨ih (n / 16), by simpa using hall (n % 16) (Nat.mod_lt n (by decide))⟩

theorem text (x : Decimal.Binary64) : IsPrinted x.text := by
  rcases hshortest : x.shortest with ⟨digits, scale⟩
  have hdigits := decimal digits
  have htail : IsPrinted (Text.decimal digits).tail := List.drop_one ▸ hdigits.drop 1
  unfold Decimal.Binary64.text
  simp only [hshortest]
  -- One case for each layout of a number.
  repeat' split
  all_goals simp [hdigits, htail, hdigits.take, hdigits.drop, zeros, decimal]

theorem escaped (c : Char) : IsPrinted (Json.escaped c) := by
  rw [Json.escaped]
  by_cases hc : c.toNat < 32
  · repeat' split
    all_goals simp [hexDigits]
  · repeat' split
    all_goals simp [Nat.le_of_not_lt hc]

theorem quoted (s : String) : IsPrinted (Json.quoted s) := by
  have hs : IsPrinted (s.toList.flatMap Json.escaped) := by
    intro c hc
    obtain ⟨d, -, hd⟩ := List.mem_flatMap.mp hc
    exact escaped d c hd
  rw [Json.quoted]
  simp [hs]

end IsPrinted

namespace Json

mutual

theorem isPrinted_chars : ∀ j : Json, IsPrinted j.chars
  | .null => by simp [chars]
  | .bool b => by cases b <;> simp [chars]
  | .number (.int i) => .signedDecimal i
  | .number (.real x) => .text x
  | .string s => .quoted s
  | .array items => by
    rw [chars]
    simp [isPrinted_itemChars items]
  | .object members => by
    rw [chars]
    simp [isPrinted_memberChars members]

theorem isPrinted_itemChars : ∀ js : List Json, IsPrinted (itemChars js)
  | [] => .nil
  | [j] => isPrinted_chars j
  | j :: j' :: js => by
    rw [itemChars_cons_cons]
    simp [isPrinted_chars j, isPrinted_itemChars (j' :: js)]

theorem isPrinted_memberChars : ∀ ms : List (String × Json), IsPrinted (memberChars ms)
  | [] => .nil
  | [(k, j)] => by
    rw [memberChars]
    simp [IsPrinted.quoted k, isPrinted_chars j]
  | (k, j) :: m :: ms => by
    rw [memberChars_cons_cons]
    simp [IsPrinted.quoted k, isPrinted_chars j, isPrinted_memberChars (m :: ms)]

end

end Json

end Sentinel
