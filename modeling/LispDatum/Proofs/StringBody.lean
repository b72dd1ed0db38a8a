import LispDatum.Reader.Lexeme

/-!
# Items of a string

What the characters after an opening quote read as is a function of them, the
scan.  Between its quotes a string is a sequence of items: characters that stand
for themselves, and escapes.  A scan passes over whole items, so it can only end
where no item starts: at a quote, at the end of the text, at a last backslash or
at a backslash before a character that it does not escape.  Since the items are
a type, every string of this module is well formed.
-/

namespace LispDatum.Reader

/-- How the characters after an opening quote read. -/
inductive Body where
  /-- The string closes after `length` characters, the quote included. -/
  | closed (contents : List Char) (length : Nat)
  /-- The string breaks off after `length` characters. -/
  | broken (cause : Cause) (length : Nat)
deriving DecidableEq, Repr

/-- A body that is preceded by one more character, written with `length`
characters. -/
def Body.cons (char : Char) (length : Nat) : Body → Body
  | .closed contents rest => .closed (char :: contents) (length + rest)
  | .broken cause rest => .broken cause (length + rest)

/-- The body of a string, up to its closing quote or to the first fault. -/
def Body.scan : List Char → Body
  | [] => .broken .openString 0
  | '"' :: _ => .closed [] 1
  | ['\\'] => .broken .openEscape 1
  | '\\' :: char :: rest =>
    match unescape? char with
    | some decoded => (scan rest).cons decoded 2
    | none => .broken (.badEscape char) 1
  | char :: rest => (scan rest).cons char 1

/-- What a backslash can be followed by. -/
inductive Escape where
  | backslash
  | quote
  | lineFeed
  | carriageReturn
  | tab
deriving DecidableEq, Repr

namespace Escape

def letter : Escape → Char
  | backslash => '\\'
  | quote => '"'
  | lineFeed => 'n'
  | carriageReturn => 'r'
  | tab => 't'

def value : Escape → Char
  | backslash => '\\'
  | quote => '"'
  | lineFeed => '\n'
  | carriageReturn => '\r'
  | tab => '\t'

@[simp]
theorem unescape?_letter (escape : Escape) :
    unescape? escape.letter = some escape.value := by
  cases escape <;> rfl

theorem eq_letter_of_unescape? {char decoded : Char}
    (hdecoded : unescape? char = some decoded) :
    ∃ escape : Escape, char = escape.letter ∧ decoded = escape.value := by
  rw [unescape?.eq_def] at hdecoded
  split at hdecoded <;> cases hdecoded
  · exact ⟨backslash, rfl, rfl⟩
  · exact ⟨quote, rfl, rfl⟩
  · exact ⟨lineFeed, rfl, rfl⟩
  · exact ⟨carriageReturn, rfl, rfl⟩
  · exact ⟨tab, rfl, rfl⟩

theorem unescape?_eq_none_iff {char : Char} :
    unescape? char = none ↔ ∀ escape : Escape, char ≠ escape.letter := by
  constructor
  · rintro hnone escape rfl
    rw [unescape?_letter] at hnone
    exact Option.some_ne_none _ hnone
  · intro hletters
    rw [Option.eq_none_iff_forall_ne_some]
    intro decoded hdecoded
    obtain ⟨escape, hchar, -⟩ := eq_letter_of_unescape? hdecoded
    exact hletters escape hchar

end Escape

inductive Item where
  /-- A character that stands for itself. -/
  | raw (char : Char) (hquote : char ≠ '"') (hbackslash : char ≠ '\\')
  /-- A backslash and what it escapes. -/
  | escaped (escape : Escape)
deriving DecidableEq

namespace Item

/-- The characters that an item is written with. -/
def chars : Item → List Char
  | raw char _ _ => [char]
  | escaped escape => ['\\', escape.letter]

/-- The character that an item stands for. -/
def value : Item → Char
  | raw char _ _ => char
  | escaped escape => escape.value

/-- The text between the quotes. -/
def spell (items : List Item) : List Char :=
  items.flatMap chars

@[simp]
theorem spell_nil : spell [] = [] := rfl

@[simp]
theorem spell_cons (item : Item) (items : List Item) :
    spell (item :: items) = item.chars ++ spell items := by
  rw [spell, List.flatMap_cons, spell]

end Item

open Item

/-- A body behind some items. -/
def Body.prepend (items : List Item) : Body → Body
  | .closed contents length =>
    .closed (items.map value ++ contents) ((spell items).length + length)
  | .broken cause length => .broken cause ((spell items).length + length)

theorem Body.prepend_nil (body : Body) : body.prepend [] = body := by
  cases body <;> simp [prepend]

theorem Body.prepend_cons (item : Item) (items : List Item) (body : Body) :
    body.prepend (item :: items) =
      (body.prepend items).cons item.value item.chars.length := by
  cases body <;> simp [prepend, Body.cons, Nat.add_assoc]

theorem Body.scan_chars_append (item : Item) (rest : List Char) :
    Body.scan (item.chars ++ rest) =
      (Body.scan rest).cons item.value item.chars.length := by
  cases item with
  | raw char hquote hbackslash => simp [chars, value, Body.scan, *]
  | escaped escape => simp [chars, value, Body.scan]

/-- A scan passes over any number of items. -/
theorem Body.scan_spell_append (items : List Item) (rest : List Char) :
    Body.scan (spell items ++ rest) = (Body.scan rest).prepend items := by
  induction items with
  | nil => rw [spell_nil, List.nil_append, prepend_nil]
  | cons item items hind =>
    rw [spell_cons, List.append_assoc, scan_chars_append, hind, prepend_cons]

/-- No item starts here: the string ends, or the text does, or a backslash
escapes nothing. -/
inductive EndsItems : List Char → Prop where
  | closed (rest : List Char) : EndsItems ('"' :: rest)
  | ended : EndsItems []
  | endedEscape : EndsItems ['\\']
  | badEscape (char : Char) (rest : List Char)
      (hchar : unescape? char = none) : EndsItems ('\\' :: char :: rest)

/-- Every text is split by a scan into items and a rest where none starts. -/
theorem exists_spell_append (text : List Char) :
    ∃ items rest, text = spell items ++ rest ∧ EndsItems rest := by
  fun_induction Body.scan text with
  | case1 => exact ⟨[], [], rfl, .ended⟩
  | case2 rest => exact ⟨[], '"' :: rest, rfl, .closed rest⟩
  | case3 => exact ⟨[], ['\\'], rfl, .endedEscape⟩
  | case4 char rest decoded hdecoded hind =>
    obtain ⟨items, tail, htext, htail⟩ := hind
    obtain ⟨escape, hchar, -⟩ := Escape.eq_letter_of_unescape? hdecoded
    subst hchar
    exact ⟨.escaped escape :: items, tail, by simp [chars, htext], htail⟩
  | case5 char rest hchar => exact ⟨[], _, rfl, .badEscape char rest hchar⟩
  | case6 char rest hquote hlast hbackslash hind =>
    obtain ⟨items, tail, htext, htail⟩ := hind
    by_cases hchar : char = '\\'
    · subst hchar
      cases rest with
      | nil => exact absurd rfl (hlast rfl)
      | cons next rest => exact absurd rfl (hbackslash next rest rfl)
    · exact ⟨.raw char hquote hchar :: items, tail, by simp [chars, htext],
        htail⟩

end LispDatum.Reader
