import GameBoy.Bus
import GameBoy.Proofs.Store

/-!
# Object transfers

A transfer copies a page into the object attribute table byte by byte, so it reads memory that it
has begun to overwrite.  That makes no difference: the page of the table itself is copied onto
itself, and no other page reaches into the table.  So each cell of the table ends up with the byte
that its source held before the first one was copied, `read_transferObjects_object`, and all other
cells keep theirs, `read_transferObjects_of_outside`.
-/

namespace GameBoy.Bus

/-! ## The cells of a transfer -/

/-- The cell of a byte of the object attribute table. -/
def objectCell (i : Nat) : UInt16 := Address.objects + UInt16.ofNat i

/-- The cell that a transfer from a page copies to the byte of the table. -/
def sourceCell (page : UInt8) (i : Nat) : UInt16 := UInt16.ofNat (256 * page.toNat + i)

theorem toNat_objectCell {i : Nat} (hi : i < 160) : (objectCell i).toNat = 0xFE00 + i := by
  rw [objectCell, UInt16.toNat_add, UInt16.toNat_ofNat']
  show (0xFE00 + i % 65536) % 65536 = 0xFE00 + i
  omega

theorem toNat_sourceCell (page : UInt8) {i : Nat} (hi : i < 160) :
    (sourceCell page i).toNat = 256 * page.toNat + i := by
  have hpage := page.toNat_lt
  rw [sourceCell, UInt16.toNat_ofNat']
  omega

theorem sourceCell_eq (page : UInt8) (i : Nat) :
    Word.ofBytes 0 page + UInt16.ofNat i = sourceCell page i := by
  apply UInt16.toNat_inj.mp
  rw [sourceCell, UInt16.toNat_add, Word.toNat_ofBytes, UInt16.toNat_ofNat', UInt16.toNat_ofNat']
  show (256 * page.toNat + 0 + i % 65536) % 65536 = _
  rw [Nat.add_zero, Nat.add_mod_mod]

theorem objectCell_inj {i j : Nat} (hi : i < 160) (hj : j < 160) :
    objectCell i = objectCell j ↔ i = j := by
  rw [← UInt16.toNat_inj, toNat_objectCell hi, toNat_objectCell hj, Nat.add_right_inj]

/-- A byte is not copied from a cell that has been copied to before. -/
theorem objectCell_ne_sourceCell (page : UInt8) {i n : Nat} (hi : i < n) (hn : n < 160) :
    objectCell i ≠ sourceCell page n := by
  intro heq
  have hcells := congrArg UInt16.toNat heq
  rw [toNat_objectCell (Nat.lt_trans hi hn), toNat_sourceCell page hn] at hcells
  omega

/-! ## Copying -/

section

variable (memory : Memory) (page : UInt8)

/-- Memory after the first `n` bytes of a transfer. -/
def copied (n : Nat) : Memory :=
  (List.range n).foldl
    (fun memory i => memory.store (objectCell i) (memory.read (sourceCell page i))) memory

theorem transferObjects_eq : transferObjects memory page = copied memory page 160 := by
  unfold transferObjects copied
  simp only [sourceCell_eq]
  rfl

theorem copied_succ (n : Nat) :
    copied memory page (n + 1) =
      (copied memory page n).store (objectCell n)
        ((copied memory page n).read (sourceCell page n)) := by
  rw [copied, List.range_succ, List.foldl_append]
  rfl

theorem read_copied_of_forall_ne {n : Nat} {address : UInt16}
    (h : ∀ i < n, objectCell i ≠ address) :
    (copied memory page n).read address = memory.read address := by
  induction n with
  | zero => rfl
  | succ n ih =>
      rw [copied_succ, Memory.read_store_of_ne _ (h n (Nat.lt_succ_self n))]
      exact ih fun i hi => h i (Nat.lt_succ_of_lt hi)

theorem read_copied_object {n : Nat} (hn : n ≤ 160) {i : Nat} (hi : i < n) :
    (copied memory page n).read (objectCell i) = memory.read (sourceCell page i) := by
  -- by induction on the cells copied: no earlier one of them is the source of a later one
  induction n with
  | zero => exact absurd hi (Nat.not_lt_zero i)
  | succ n ih =>
      rw [copied_succ]
      rcases Nat.lt_succ_iff_lt_or_eq.mp hi with hearlier | rfl
      · have hne : objectCell n ≠ objectCell i := fun heq =>
          Nat.ne_of_gt hearlier ((objectCell_inj hn (Nat.lt_trans hearlier hn)).mp heq)
        rw [Memory.read_store_of_ne _ hne]
        exact ih (Nat.le_of_succ_le hn) hearlier
      · rw [Memory.read_store_self]
        exact read_copied_of_forall_ne memory page fun j hj => objectCell_ne_sourceCell page hj hn

/-! ## Transfers -/

theorem read_transferObjects_object {i : Nat} (hi : i < 160) :
    (transferObjects memory page).read (objectCell i) = memory.read (sourceCell page i) := by
  rw [transferObjects_eq]
  exact read_copied_object memory page (Nat.le_refl 160) hi

theorem read_transferObjects_of_outside {address : UInt16}
    (h : ¬ (0xFE00 ≤ address.toNat ∧ address.toNat < 0xFEA0)) :
    (transferObjects memory page).read address = memory.read address := by
  rw [transferObjects_eq]
  apply read_copied_of_forall_ne
  rintro i hi rfl
  apply h
  rw [toNat_objectCell hi]
  omega

end

end GameBoy.Bus
