/-!
# Text without control sequences

An escape character and some characters after it form one command to a terminal.  `strip` leaves
these sequences out of a text, and every control that is not white space with them.  A reader
goes through the text character by character: `Reader.next` says where it is in a sequence, and
`Reader.shows` which characters stay.

White space stays also in the middle of a sequence, and so does what follows it, up to the next
control: there the sequence goes on, unless a character beyond ASCII came in between.  Strings
and commands take white space in, so one that is left open takes the end of its line with it.
`strip_eq_self` says that text without controls stays as it is.
-/

namespace GameBoy.ControlSequence

/-- How far a sequence has come. -/
inductive State
  /-- Outside of sequences. -/
  | text
  /-- After an escape character. -/
  | escape
  /-- In a longer escape sequence, before the character that ends it. -/
  | intermediate
  /-- In a control sequence. -/
  | control
  /-- At the start of a device control string. -/
  | device
  /-- In the parameters of a device control string. -/
  | deviceParameters
  /-- Between the parameters of a device control string and its content. -/
  | deviceIntermediate
  /-- In the content of a string. -/
  | string
  /-- In a command to the operating system. -/
  | command
  deriving DecidableEq, Repr

/-- The controls that move to another place of the page. -/
def isWhiteSpace (c : Char) : Bool := c ∈ ['\t', '\n', '\x0c', '\r']

/-- The byte that ends a string.  It does so also as a part of a longer character. -/
def terminator : UInt8 := 0x9C

namespace State

/-- Whether a sequence takes white space in. -/
def swallows : State → Bool
  | text | escape | intermediate | control => false
  | device | deviceParameters | deviceIntermediate | string | command => true

/-- The state after an escape character and one more. -/
def afterEscape (c : Char) : State :=
  match c with
  | '[' => control
  | ']' => command
  | 'P' => device
  | 'X' | '^' | '_' => string
  | _ =>
    if ' ' ≤ c ∧ c ≤ '/' then intermediate
    else if '0' ≤ c ∧ c ≤ '~' then text
    else escape

/-- The state after a character that a sequence takes in. -/
def proceed (state : State) (c : Char) : State :=
  match state with
  | text => text
  | escape => afterEscape c
  | intermediate => if '0' ≤ c ∧ c ≤ '~' then text else state
  | control => if '@' ≤ c ∧ c ≤ '~' then text else state
  | device =>
    if ' ' ≤ c ∧ c ≤ '/' then deviceIntermediate
    else if '0' ≤ c ∧ c ≤ '?' then deviceParameters
    else if '@' ≤ c ∧ c ≤ '~' then string
    else state
  | deviceParameters =>
    if ' ' ≤ c ∧ c ≤ '/' then deviceIntermediate
    else if '<' ≤ c ∧ c ≤ '~' then string
    else state
  | deviceIntermediate => if '0' ≤ c ∧ c ≤ '~' then string else state
  | string => if terminator ∈ String.utf8EncodeChar c then text else state
  | command => if c = '\x07' then text else state

end State

structure Reader where
  state : State := .text
  /-- Whether the last character stayed. -/
  showing : Bool := false

namespace Reader

/-- Whether a character stays. -/
def shows (reader : Reader) (c : Char) : Bool :=
  if isWhiteSpace c then !reader.state.swallows
  else (reader.showing || reader.state = .text) && ' ' ≤ c && c ≠ '\x7f'

/-- The reader after a character.  An escape character begins a sequence wherever it stands, and
a cancel or a substitute character ends any. -/
def next (reader : Reader) (c : Char) : Reader :=
  if c = '\x1b' then { state := .escape }
  else if c = '\x18' ∨ c = '\x1a' then { state := .text }
  else if reader.shows c then
    { state := if c ≤ '\x7f' then reader.state else .text, showing := true }
  else { state := reader.state.proceed c }

end Reader

/-- Appends the characters that stay to a text. -/
def appendTo (kept : String) (reader : Reader) : List Char → String
  | [] => kept
  | c :: rest => appendTo (if reader.shows c then kept.push c else kept) (reader.next c) rest

/-- A text without its control sequences. -/
def strip (content : String) : String := appendTo "" {} content.toList

/-! ## Text that has no controls -/

/-- Whether a character stays wherever it stands outside of a sequence. -/
def isPlain (c : Char) : Bool := isWhiteSpace c || (' ' ≤ c && c ≠ '\x7f')

theorem shows_of_isPlain {reader : Reader} (hstate : reader.state = .text) {c : Char}
    (h : isPlain c) : reader.shows c := by
  unfold Reader.shows
  rw [hstate]
  unfold isPlain at h
  split
  · rfl
  · simp_all

theorem next_of_isPlain {reader : Reader} (hstate : reader.state = .text) {c : Char}
    (h : isPlain c) : (reader.next c).state = .text := by
  have hescape : c ≠ '\x1b' := by
    rintro rfl
    exact absurd h (by decide)
  unfold Reader.next
  rw [if_neg hescape, if_pos (shows_of_isPlain hstate h), hstate, ite_self]
  split <;> rfl

theorem appendTo_of_isPlain (kept : String) {reader : Reader} (hstate : reader.state = .text)
    {content : List Char} (h : ∀ c ∈ content, isPlain c) :
    appendTo kept reader content = kept ++ String.ofList content := by
  induction content generalizing kept reader with
  | nil => simp [appendTo]
  | cons c rest ih =>
    have hc : isPlain c := h c List.mem_cons_self
    rw [appendTo, if_pos (shows_of_isPlain hstate hc),
      ih _ (next_of_isPlain hstate hc) fun d hd => h d (List.mem_cons_of_mem c hd)]
    apply String.toList_injective
    simp

theorem strip_eq_self {content : String} (h : ∀ c ∈ content.toList, isPlain c) :
    strip content = content := by
  rw [strip, appendTo_of_isPlain "" rfl h]
  simp

end GameBoy.ControlSequence
