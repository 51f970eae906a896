import Mathlib.Data.Nat.Notation
import Mathlib.Logic.Equiv.Defs

/-!
# Texts that can be read back

A `Spelling` writes values and reads them off the front of a text.  The two sides agree in full: a
value is read exactly from the texts that begin with what is written for it, so that nothing is lost
and nothing else is accepted, `read?_eq_some`.  Hence no text begins with what is written for two
values, and spellings can be put together: one inside fixed texts, `enclosed`, one after another,
`pair`, and a number of times, `repeated`.

The one spelling that has to look for its end is that of a number in decimal digits, `decimal`.  The
digits are those up to the first character that is none, and they are taken only if they are how the
number is written, without leading zeros.
-/

namespace GameBoy

/-- A way to write values in front of any text, so that they can be read back from there. -/
structure Spelling (α : Type) where
  write : α → List Char
  read? : List Char → Option (α × List Char)
  read?_eq_some {text rest : List Char} {value : α} :
    read? text = some (value, rest) ↔ text = write value ++ rest

namespace Spelling

variable {α β : Type} (spelling : Spelling α)

/-! ## Whole texts -/

/-- Reads a text that holds one value and nothing after it. -/
def parse? (text : List Char) : Option α :=
  match spelling.read? text with
  | some (value, []) => some value
  | _ => none

theorem parse?_eq_some {text : List Char} {value : α} :
    spelling.parse? text = some value ↔ text = spelling.write value := by
  -- reading may leave a rest, which parsing accepts only if it is empty
  have hread : spelling.parse? text = some value ↔ spelling.read? text = some (value, []) := by
    unfold parse?
    split
    · rename_i found hfound
      rw [hfound, Option.some.injEq, Option.some.injEq, Prod.mk.injEq, and_iff_left rfl]
    · rename_i hnone
      exact iff_of_false nofun (hnone value)
  rw [hread, spelling.read?_eq_some, List.append_nil]

theorem write_injective {a b : α} (h : spelling.write a = spelling.write b) : a = b := by
  have ha : spelling.parse? (spelling.write a) = some a := spelling.parse?_eq_some.mpr rfl
  have hb : spelling.parse? (spelling.write a) = some b := spelling.parse?_eq_some.mpr h
  exact Option.some.inj (ha.symm.trans hb)

/-! ## Fixed texts -/

/-- Takes a fixed text off the front of a text. -/
def skip? : List Char → List Char → Option (List Char)
  | [], text => some text
  | _ :: _, [] => none
  | c :: fixed, d :: text => if c = d then skip? fixed text else none

theorem skip?_eq_some {fixed text rest : List Char} :
    skip? fixed text = some rest ↔ text = fixed ++ rest := by
  -- one case for each way in which the two texts begin
  induction fixed, text using skip?.induct with
  | case1 text => rw [skip?, Option.some.injEq, List.nil_append]
  | case2 c fixed =>
      rw [skip?]
      exact iff_of_false nofun nofun
  | case3 fixed d text ih =>
      rw [skip?, if_pos rfl, ih, List.cons_append, List.cons.injEq, and_iff_right rfl]
  | case4 c fixed d text hne =>
      rw [skip?, if_neg hne, List.cons_append, List.cons.injEq]
      exact iff_of_false nofun fun h => hne h.1.symm

/-- The spelling with a fixed text before it and one after it. -/
def enclosed (before : String) (spelling : Spelling α) (after : String) : Spelling α where
  write value := before.toList ++ spelling.write value ++ after.toList
  read? text := do
    let text ← skip? before.toList text
    let (value, text) ← spelling.read? text
    let rest ← skip? after.toList text
    some (value, rest)
  read?_eq_some {text rest value} := by
    simp only [Option.bind_eq_bind, Option.bind_eq_some_iff, skip?_eq_some, Option.some.injEq,
      Prod.mk.injEq, Prod.exists, spelling.read?_eq_some]
    constructor
    · rintro ⟨_, rfl, _, _, rfl, _, rfl, rfl, rfl⟩
      simp only [List.append_assoc]
    · rintro rfl
      exact ⟨_, by simp only [List.append_assoc], _, _, rfl, _, rfl, rfl, rfl⟩

/-! ## Several values -/

def pair (first : Spelling α) (second : Spelling β) : Spelling (α × β) where
  write value := first.write value.1 ++ second.write value.2
  read? text := do
    let (a, text) ← first.read? text
    let (b, rest) ← second.read? text
    some ((a, b), rest)
  read?_eq_some {text rest value} := by
    simp only [Option.bind_eq_bind, Option.bind_eq_some_iff, Option.some.injEq, Prod.mk.injEq,
      Prod.exists, first.read?_eq_some, second.read?_eq_some]
    constructor
    · rintro ⟨_, _, rfl, _, _, rfl, rfl, rfl⟩
      simp only [List.append_assoc]
    · rintro rfl
      exact ⟨_, _, List.append_assoc .., _, _, rfl, rfl, rfl⟩

/-- Reads a number of values. -/
def readMany? : (n : ℕ) → List Char → Option (Vector α n × List Char)
  | 0, text => some (#v[], text)
  | n + 1, text => do
    let (values, text) ← readMany? n text
    let (value, rest) ← spelling.read? text
    some (values.push value, rest)

theorem readMany?_eq_some {n : ℕ} {text rest : List Char} {values : Vector α n} :
    spelling.readMany? n text = some (values, rest) ↔
      text = values.toList.flatMap spelling.write ++ rest := by
  induction n generalizing text rest with
  | zero =>
      have hempty : values = #v[] := Vector.eq_empty
      rw [readMany?, hempty, Option.some.injEq, Prod.mk.injEq, and_iff_right rfl]
      rfl
  | succ n ih =>
      -- the last value is written last, and read when the others have been
      obtain ⟨initial, last, rfl⟩ : ∃ initial last, values = Vector.push initial last :=
        Vector.exists_push
      simp only [readMany?, Option.bind_eq_bind, Option.bind_eq_some_iff, Option.some.injEq,
        Prod.mk.injEq, Prod.exists, ih, spelling.read?_eq_some, Vector.push_eq_push,
        Vector.toList_push, List.flatMap_append, List.flatMap_singleton]
      constructor
      · rintro ⟨_, _, rfl, _, _, rfl, ⟨rfl, rfl⟩, rfl⟩
        simp only [List.append_assoc]
      · rintro rfl
        exact ⟨_, _, List.append_assoc .., _, _, rfl, ⟨rfl, rfl⟩, rfl⟩

/-- A number of values, one after another. -/
def repeated (spelling : Spelling α) (n : ℕ) : Spelling (Vector α n) where
  write values := values.toList.flatMap spelling.write
  read? := spelling.readMany? n
  read?_eq_some := spelling.readMany?_eq_some

/-- The values of another type that stand for those of a spelling. -/
def map (spelling : Spelling α) (equiv : α ≃ β) : Spelling β where
  write value := spelling.write (equiv.symm value)
  read? text := (spelling.read? text).map fun (value, rest) => (equiv value, rest)
  read?_eq_some {text rest value} := by
    simp only [Option.map_eq_some_iff, Prod.mk.injEq, Prod.exists, spelling.read?_eq_some]
    constructor
    · rintro ⟨_, _, rfl, rfl, rfl⟩
      rw [equiv.symm_apply_apply]
    · rintro rfl
      exact ⟨_, _, rfl, equiv.apply_symm_apply value, rfl⟩

/-! ## Numbers -/

/-- The digits of a number end where the next character is none. -/
theorem span_toDigits_append (n : ℕ) {stop : Char} (hstop : stop.isDigit = false)
    (rest : List Char) :
    (Nat.toDigits 10 n ++ stop :: rest).takeWhile Char.isDigit = Nat.toDigits 10 n ∧
    (Nat.toDigits 10 n ++ stop :: rest).dropWhile Char.isDigit = stop :: rest := by
  have hdigits : ∀ c ∈ Nat.toDigits 10 n, c.isDigit = true := fun c hc =>
    Nat.isDigit_of_mem_toDigits (by decide) (by decide) hc
  -- what follows the number is no digit, so the digits end where it does
  have hend : ¬stop.isDigit = true := by rw [hstop]; decide
  constructor
  · rw [List.takeWhile_append_of_pos hdigits, List.takeWhile_cons_of_neg hend, List.append_nil]
  · rw [List.dropWhile_append_of_pos hdigits, List.dropWhile_cons_of_neg hend]

/-- A number in decimal digits with a character after it that is no digit. -/
def decimal (stop : Char) (hstop : stop.isDigit = false) : Spelling ℕ where
  write n := Nat.toDigits 10 n ++ [stop]
  read? text :=
    let digits := text.takeWhile Char.isDigit
    let n := Nat.ofDigitChars 10 digits 0
    match text.dropWhile Char.isDigit with
    | c :: rest => if c = stop ∧ Nat.toDigits 10 n = digits then some (n, rest) else none
    | [] => none
  read?_eq_some {text rest n} := by
    constructor
    · intro h
      dsimp only at h
      split at h
      · rename_i c rest' hdrop
        split at h
        · rename_i hcanonical
          obtain ⟨rfl, rfl⟩ := Prod.mk.inj (Option.some.inj h)
          rw [hcanonical.2, ← hcanonical.1, List.append_assoc, List.singleton_append, ← hdrop,
            List.takeWhile_append_dropWhile]
        · exact nomatch h
      · exact nomatch h
    · rintro rfl
      obtain ⟨hdigits, hrest⟩ := span_toDigits_append n hstop rest
      rw [List.append_assoc, List.singleton_append]
      dsimp only
      rw [hdigits, hrest]
      dsimp only
      rw [Nat.ofDigitChars_ten_toDigits, if_pos ⟨rfl, rfl⟩]

end Spelling

end GameBoy
