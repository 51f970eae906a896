import Mathlib.Data.List.Induction
import GameBoy.Proofs.Bus
import GameBoy.Proofs.Joypad

/-!
# The joypad register after any history

The joypad register is a cell like any other to those who read it, so every operation that changes
a key or the selection has to bring it up to date, and no write may get into it past the joypad.
`JoypadShown` says that the cell is what the joypad makes of itself; writes, presses and releases
keep it.

A history of the bus is any sequence of these.  It decides which keys are held, those pressed more
recently than released, and what was written to the register last; `joypad_of_history` gives the
register, and the request that a press makes, in these terms alone.
-/

namespace GameBoy.Bus

/-! ## The register is up to date -/

/-- The joypad register holds what the joypad makes of its keys and its selection. -/
def JoypadShown (bus : Bus) : Prop := bus.memory.read Address.joypad = bus.joypad.register

theorem joypadShown_refreshJoypad (bus : Bus) : bus.refreshJoypad.JoypadShown :=
  Memory.read_store_self ..

theorem joypad_write (bus : Bus) (w : Write) :
    (bus.write w).value.joypad =
      if w.address = Address.joypad then bus.joypad.writeSelect w.value else bus.joypad := by
  rw [value_write]

variable {bus : Bus}

theorem JoypadShown.write (h : bus.JoypadShown) (w : Write) : (bus.write w).value.JoypadShown := by
  unfold JoypadShown
  rw [read_write_of_outside bus w (by decide), joypad_write, taken]
  split
  · rfl
  · exact h

theorem JoypadShown.writeAll (h : bus.JoypadShown) (writes : List Write) :
    (bus.writeAll writes).value.JoypadShown := by
  induction writes generalizing bus with
  | nil => exact h
  | cons first rest ih => exact ih (h.write first)

theorem joypadShown_press (bus : Bus) (key : Key) : (bus.press key).value.JoypadShown := by
  rw [value_press]
  exact joypadShown_refreshJoypad _

theorem joypadShown_release (bus : Bus) (key : Key) : (bus.release key).JoypadShown :=
  joypadShown_refreshJoypad _

theorem joypadShown_powerOn : powerOn.value.JoypadShown :=
  joypadShown_refreshJoypad _

/-! ## Requests -/

theorem joypad_press (bus : Bus) (key : Key) :
    (bus.press key).value.joypad = bus.joypad.press key := by
  rw [value_press]
  rfl

theorem requests_press (bus : Bus) (key : Key) :
    (bus.press key).value.memory.read Address.interruptRequest =
      if bus.joypad.pressAlerts key then
        bus.memory.read Address.interruptRequest ||| Interrupt.joypad.mask
      else bus.memory.read Address.interruptRequest := by
  have hrefresh : (bus.press key).value.memory.read Address.interruptRequest =
      (bus.alertedMemory key).read Address.interruptRequest := by
    rw [value_press]
    exact Memory.read_store_of_ne _ (by decide) _
  rw [hrefresh, alertedMemory]
  split
  · exact Memory.read_store_self ..
  · rfl

/-! ## Histories -/

/-- Something that happens to the bus. -/
inductive Access
  | write (w : Write)
  | press (key : Key)
  | release (key : Key)
  deriving DecidableEq, Repr

/-- The bus after an access. -/
def access (bus : Bus) : Access → Bus
  | .write w => (bus.write w).value
  | .press key => (bus.press key).value
  | .release key => bus.release key

/-- Whether an access presses or releases a key. -/
def moves (key : Key) (access : Access) : Bool := access == .press key || access == .release key

/-- Whether a key was pressed more recently than released. -/
def held (history : List Access) (key : Key) : Bool :=
  history.reverse.find? (moves key) == some (.press key)

/-- The last byte written to the joypad register; at power-on, a zero. -/
def selection (history : List Access) : UInt8 :=
  (history.reverse.findSome? fun
    | .write w => if w.address = Address.joypad then some w.value else none
    | .press _ | .release _ => none).getD 0

theorem held_concat (history : List Access) (last : Access) (key : Key) :
    held (history ++ [last]) key =
      if last = .press key then true
      else if last = .release key then false
      else held history key := by
  unfold held
  -- the history is searched from its end, where the last access is
  rw [List.reverse_concat]
  by_cases hpress : last = .press key
  · simp [hpress, moves]
  · by_cases hrelease : last = .release key
    · simp [hrelease, moves]
    · have hother : ¬ moves key last = true := by simp [moves, hpress, hrelease]
      rw [List.find?_cons_of_neg hother, if_neg hpress, if_neg hrelease]

theorem selection_concat (history : List Access) (last : Access) :
    selection (history ++ [last]) =
      match last with
      | .write w => if w.address = Address.joypad then w.value else selection history
      | .press _ | .release _ => selection history := by
  unfold selection
  rw [List.reverse_concat, List.findSome?_cons]
  cases last with
  | write w => by_cases hjoypad : w.address = Address.joypad <;> simp [hjoypad]
  | press key => rfl
  | release key => rfl

/-- The joypad knows what the history says of the keys and the selection, and shows it. -/
structure Follows (history : List Access) (bus : Bus) : Prop where
  shown : bus.JoypadShown
  isDown_eq : ∀ key, bus.joypad.isDown key = held history key
  select_eq : bus.joypad.select = selection history &&& 0x30

theorem follows_powerOn : Follows [] powerOn.value := by
  refine ⟨joypadShown_powerOn, fun key => ?_, ?_⟩
  · cases key <;> rfl
  · rfl

variable {history : List Access}

theorem Follows.write (h : Follows history bus) (w : Write) :
    Follows (history ++ [.write w]) (bus.access (.write w)) := by
  refine ⟨h.shown.write w, fun key => ?_, ?_⟩
  · -- writing to the register selects groups and moves no key
    have hkeys : (bus.write w).value.joypad.isDown key = bus.joypad.isDown key := by
      rw [joypad_write]
      split
      · exact bus.joypad.isDown_writeSelect w.value key
      · rfl
    rw [access, hkeys, h.isDown_eq, held_concat]
    simp
  · rw [access, joypad_write, selection_concat]
    dsimp only
    split
    · rfl
    · exact h.select_eq

theorem Follows.press (h : Follows history bus) (key : Key) :
    Follows (history ++ [.press key]) (bus.access (.press key)) := by
  refine ⟨bus.joypadShown_press key, fun other => ?_, ?_⟩
  · rw [access, joypad_press, Joypad.isDown_press, h.isDown_eq, held_concat]
    by_cases hkey : other = key
    · simp [hkey]
    · simp [hkey, Ne.symm hkey]
  · rw [access, joypad_press, Joypad.select_press, h.select_eq, selection_concat]

theorem Follows.release (h : Follows history bus) (key : Key) :
    Follows (history ++ [.release key]) (bus.access (.release key)) := by
  have hjoypad : (bus.access (.release key)).joypad = bus.joypad.release key := rfl
  refine ⟨bus.joypadShown_release key, fun other => ?_, ?_⟩
  · rw [hjoypad, Joypad.isDown_release, h.isDown_eq, held_concat]
    by_cases hkey : other = key
    · simp [hkey]
    · simp [hkey, Ne.symm hkey]
  · rw [hjoypad, Joypad.select_release, h.select_eq, selection_concat]

theorem Follows.access (h : Follows history bus) (next : Access) :
    Follows (history ++ [next]) (bus.access next) := by
  cases next with
  | write w => exact h.write w
  | press key => exact h.press key
  | release key => exact h.release key

theorem follows_foldl_access (history : List Access) :
    Follows history (history.foldl access powerOn.value) := by
  induction history using List.reverseRecOn with
  | nil => exact follows_powerOn
  | append_singleton history last ih =>
      rw [List.foldl_append]
      exact ih.access last

/-! ## The register in terms of the history -/

theorem bit_selection (byte : UInt8) (group : KeyGroup) :
    bit (byte &&& 0x30) (Joypad.selectBit group) = bit byte (Joypad.selectBit group) := by
  rw [bit_and]
  cases group <;> exact Bool.and_true _

theorem Follows.isSelected_eq (h : Follows history bus) (group : KeyGroup) :
    bus.joypad.isSelected group = !bit (selection history) (Joypad.selectBit group) := by
  rw [Joypad.isSelected, h.select_eq, bit_selection]

/-- **The joypad register after any history.**  Its select bits are those written last, its top bits
are set, and a line of its low nibble is low exactly if a direction or a button on that line is held
while its group is selected.  A press requests an interrupt exactly if the key was not held and its
group is selected; no release and no write to the register requests or withdraws one. -/
theorem joypad_of_history (history : List Access) :
    let bus := history.foldl access powerOn.value
    let requests (bus : Bus) := bus.memory.read Address.interruptRequest
    let select := selection history
    (∃ nibble < 16, bus.memory.read Address.joypad = 0xC0 ||| (select &&& 0x30) ||| nibble ∧
      ∀ line < 4, bit nibble line = false ↔
        (bit select 4 = false ∧
          ∃ key : Key, key.group = .directions ∧ key.line = line ∧ held history key = true) ∨
        (bit select 5 = false ∧
          ∃ key : Key, key.group = .buttons ∧ key.line = line ∧ held history key = true)) ∧
    (∀ key, requests (bus.access (.press key)) =
      if held history key = false ∧ bit select (Joypad.selectBit key.group) = false then
        requests bus ||| 0x10
      else requests bus) ∧
    (∀ key, requests (bus.access (.release key)) = requests bus) ∧
    (∀ value, requests (bus.access (.write ⟨Address.joypad, value⟩)) = requests bus) := by
  intro bus requests select
  have hfollows : Follows history bus := follows_foldl_access history
  refine ⟨⟨bus.joypad.nibble, bus.joypad.nibble_lt, ?_, fun line hline => ?_⟩, fun key => ?_,
    fun key => ?_, fun value => ?_⟩
  · rw [hfollows.shown, Joypad.register_eq, hfollows.select_eq]
  · rw [Joypad.bit_nibble _ hline, Joypad.bit_visible _ hline, Joypad.bit_visible _ hline,
      hfollows.isSelected_eq, hfollows.isSelected_eq, Bool.not_eq_true', Bool.not_eq_true']
    simp only [hfollows.isDown_eq]
    rfl
  · have halerts : bus.joypad.pressAlerts key = true ↔
        held history key = false ∧ bit select (Joypad.selectBit key.group) = false := by
      rw [Joypad.pressAlerts_eq, hfollows.isDown_eq, hfollows.isSelected_eq, Bool.and_eq_true,
        Bool.not_eq_true', Bool.not_eq_true']
    have hpress := bus.requests_press key
    simp only [halerts] at hpress
    exact hpress
  · exact Memory.read_store_of_ne _ (by decide) _
  · have houtside : ¬ (0xFE00 ≤ Address.interruptRequest.toNat ∧
        Address.interruptRequest.toNat < 0xFEA0) := by decide
    have hne : Address.joypad ≠ Address.interruptRequest := by decide
    exact (bus.read_write_of_outside ⟨Address.joypad, value⟩ houtside).trans (if_neg hne)

end GameBoy.Bus
