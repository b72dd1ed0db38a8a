import Mathlib.Data.List.TakeWhile

/-!
# Longest runs

A scanner passes over a longest run of characters of one class.  A run is the
longest one exactly if what follows it starts outside the class, so a text that
is put together from such parts is taken apart into the same parts.
-/

namespace LispDatum.Reader

/-- No run of the given class continues here. -/
def StartsOutside (test : Char → Bool) (rest : List Char) : Prop :=
  ∀ char ∈ rest.head?, test char = false

theorem startsOutside_nil (test : Char → Bool) : StartsOutside test [] := by
  simp [StartsOutside]

theorem startsOutside_cons {test : Char → Bool} {char : Char}
    {rest : List Char} :
    StartsOutside test (char :: rest) ↔ test char = false := by
  simp [StartsOutside]

theorem startsOutside_dropWhile (test : Char → Bool) (chars : List Char) :
    StartsOutside test (chars.dropWhile test) := by
  intro char hchar
  have hstop := List.head?_dropWhile_not test chars
  rw [Option.mem_def.1 hchar] at hstop
  exact hstop

theorem StartsOutside.takeWhile_eq_nil {test : Char → Bool} {rest : List Char}
    (hrest : StartsOutside test rest) : rest.takeWhile test = [] := by
  cases rest with
  | nil => rfl
  | cons char rest => simp [startsOutside_cons.1 hrest]

/-- A run that is followed from outside its class is the longest one. -/
theorem takeWhile_append {test : Char → Bool} {run rest : List Char}
    (hrun : ∀ char ∈ run, test char = true) (hrest : StartsOutside test rest) :
    (run ++ rest).takeWhile test = run := by
  rw [List.takeWhile_append_of_pos hrun, hrest.takeWhile_eq_nil,
    List.append_nil]

theorem dropWhile_append {test : Char → Bool} {run rest : List Char}
    (hrun : ∀ char ∈ run, test char = true) (hrest : StartsOutside test rest) :
    (run ++ rest).dropWhile test = rest := by
  rw [List.dropWhile_append_of_pos hrun]
  cases rest with
  | nil => simp
  | cons char rest => simp [startsOutside_cons.1 hrest]

/-- What starts outside a class starts outside every part of it. -/
theorem StartsOutside.mono {narrow wide : Char → Bool} {rest : List Char}
    (hwide : ∀ char, narrow char = true → wide char = true)
    (hrest : StartsOutside wide rest) : StartsOutside narrow rest := by
  intro char hchar
  rw [← Bool.not_eq_true]
  intro hnarrow
  have houtside := hrest char hchar
  rw [hwide char hnarrow] at houtside
  contradiction

theorem exists_run (test : Char → Bool) (chars : List Char) :
    ∃ run rest, chars = run ++ rest ∧ (∀ char ∈ run, test char = true) ∧
      StartsOutside test rest :=
  ⟨chars.takeWhile test, chars.dropWhile test,
    List.takeWhile_append_dropWhile.symm,
    fun _ hmem => List.mem_takeWhile_imp hmem,
    startsOutside_dropWhile test chars⟩

end LispDatum.Reader
