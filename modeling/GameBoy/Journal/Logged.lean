import GameBoy.Journal.Entry

/-!
# Values with a journal

`Logged α` is a value together with the entries written while it was computed, oldest first.
Binding runs the second computation on the first one's value and appends its entries, so the
value of a composition never depends on the journal.
-/

namespace GameBoy

structure Logged (α : Type) where
  value : α
  journal : Array Entry := #[]

namespace Logged

variable {α β : Type}

@[always_inline, inline]
protected def bind (first : Logged α) (next : α → Logged β) : Logged β :=
  match first with
  | ⟨value, journal⟩ =>
    match next value with
    | ⟨result, rest⟩ => ⟨result, journal ++ rest⟩

@[always_inline]
instance : Monad Logged where
  pure value := { value }
  bind := Logged.bind

/-- Writes one entry. -/
def note (entry : Entry) : Logged Unit := { value := (), journal := #[entry] }

@[simp] theorem value_pure (value : α) : (pure value : Logged α).value = value := rfl

@[simp] theorem value_bind (first : Logged α) (next : α → Logged β) :
    (first >>= next).value = (next first.value).value := rfl

@[simp] theorem value_map (f : α → β) (first : Logged α) :
    (f <$> first).value = f first.value := rfl

@[simp] theorem journal_pure (value : α) : (pure value : Logged α).journal = #[] := rfl

@[simp] theorem journal_bind (first : Logged α) (next : α → Logged β) :
    (first >>= next).journal = first.journal ++ (next first.value).journal := rfl

@[simp] theorem journal_map (f : α → β) (first : Logged α) :
    (f <$> first).journal = first.journal := Array.append_empty

@[ext] protected theorem ext {first second : Logged α} (hvalue : first.value = second.value)
    (hjournal : first.journal = second.journal) : first = second := by
  cases first
  cases second
  cases hvalue
  cases hjournal
  rfl

/-- Only the value reaches the second computation. -/
theorem bind_congr_value {first : Logged α} {next other : α → Logged β}
    (h : next first.value = other first.value) : first >>= next = first >>= other := by
  apply Logged.ext <;> simp [h]

instance : LawfulMonad Logged := by
  refine LawfulMonad.mk' Logged ?_ ?_ ?_
  · intro α first
    apply Logged.ext <;> simp
  · intro α β value next
    apply Logged.ext <;> simp
  · intro α β γ first next last
    apply Logged.ext <;> simp [Array.append_assoc]

end Logged

end GameBoy
