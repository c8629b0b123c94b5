/-!
# Texts and byte offsets

A text is a list of characters.  Positions in a text count the bytes of its
UTF-8 form, so lengths and cuts are measured in bytes, and a cut keeps every
character whole.
-/

namespace CallMarkup

/-- A text, character by character. -/
abbrev Text := List Char

/-- Texts are hashed as strings. -/
instance : Hashable Text where
  hash text := hash (String.ofList text)

/-- The number of bytes of a text in UTF-8. -/
def byteLength : Text → Nat
  | [] => 0
  | c :: rest => c.utf8Size + byteLength rest

@[simp]
theorem byteLength_nil : byteLength [] = 0 :=
  rfl

@[simp]
theorem byteLength_cons (c : Char) (rest : Text) :
    byteLength (c :: rest) = c.utf8Size + byteLength rest :=
  rfl

@[simp]
theorem byteLength_append (first second : Text) :
    byteLength (first ++ second) = byteLength first + byteLength second := by
  induction first with
  | nil => simp
  | cons c first ih => simp [ih, Nat.add_assoc]

/-- The bytes of a text are those of the string that it spells. -/
theorem byteLength_eq_utf8ByteSize (text : Text) :
    byteLength text = (String.ofList text).utf8ByteSize := by
  induction text with
  | nil => simp
  | cons c rest ih =>
      rw [byteLength_cons, ih, ← List.singleton_append, String.ofList_append,
        ← String.singleton_eq_ofList]
      simp

/-- The longest beginning of a text that fits into so many bytes. -/
def takeBytes : Nat → Text → Text
  | _, [] => []
  | bytes, c :: rest =>
    if c.utf8Size ≤ bytes then c :: takeBytes (bytes - c.utf8Size) rest else []

/-- What follows the longest beginning that fits into so many bytes. -/
def dropBytes : Nat → Text → Text
  | _, [] => []
  | bytes, c :: rest =>
    if c.utf8Size ≤ bytes then dropBytes (bytes - c.utf8Size) rest else c :: rest

theorem takeBytes_append_dropBytes (bytes : Nat) (text : Text) :
    takeBytes bytes text ++ dropBytes bytes text = text := by
  induction text generalizing bytes with
  | nil => rfl
  | cons c rest ih =>
      simp only [takeBytes, dropBytes]
      split
      · simp [ih]
      · rfl

theorem takeBytes_byteLength_append (first second : Text) :
    takeBytes (byteLength first) (first ++ second) = first := by
  induction first with
  | nil =>
      cases second with
      | nil => rfl
      | cons c second =>
          have positive := c.utf8Size_pos
          simp [takeBytes]
          omega
  | cons c first ih => simp [takeBytes, ih]

theorem dropBytes_byteLength_append (first second : Text) :
    dropBytes (byteLength first) (first ++ second) = second := by
  have whole := takeBytes_append_dropBytes (byteLength first) (first ++ second)
  rw [takeBytes_byteLength_append] at whole
  exact List.append_cancel_left whole

/-- The text after a given beginning, when the text begins with it. -/
def afterStart? : Text → Text → Option Text
  | [], text => some text
  | _ :: _, [] => none
  | expected :: start, c :: rest => if expected = c then afterStart? start rest else none

theorem afterStart?_eq_some_iff {start text rest : Text} :
    afterStart? start text = some rest ↔ text = start ++ rest := by
  induction start generalizing text with
  | nil => simp [afterStart?]
  | cons expected start ih =>
      cases text with
      | nil => simp [afterStart?]
      | cons c text =>
          by_cases same : expected = c
          · simp [afterStart?, same, ih]
          · simp [afterStart?, same, Ne.symm same]

/-- Items with a separating text between neighbours. -/
def joinWith (between : Text) : List Text → Text
  | [] => []
  | [item] => item
  | item :: next :: items => item ++ between ++ joinWith between (next :: items)

/-- Items in a row, with commas between them. -/
def enumerated (items : List Text) : Text :=
  joinWith [',', ' '] items

/-- The pieces of a text between the occurrences of a character.  There is
always at least one. -/
def pieces (separator : Char) : Text → List Text
  | [] => [[]]
  | c :: rest =>
    if c = separator then [] :: pieces separator rest
    else (pieces separator rest).modifyHead fun piece => c :: piece

theorem pieces_ne_nil (separator : Char) (text : Text) : pieces separator text ≠ [] := by
  induction text with
  | nil => simp [pieces]
  | cons c rest ih =>
      unfold pieces
      split
      · simp
      · cases split : pieces separator rest with
        | nil => exact absurd split ih
        | cons piece others => simp

theorem joinWith_pieces (separator : Char) (text : Text) :
    joinWith [separator] (pieces separator text) = text := by
  induction text with
  | nil => rfl
  | cons c rest ih =>
      unfold pieces
      cases split : pieces separator rest with
      | nil => exact absurd split (pieces_ne_nil separator rest)
      | cons piece others =>
          rw [split] at ih
          by_cases same : c = separator
          · subst same
            simp [joinWith, ih]
          · cases others <;> simp_all [joinWith]

end CallMarkup
