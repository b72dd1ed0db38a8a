import LispDatum.Json.Document
import LispDatum.Numeral.FreeForm
import LispDatum.Proofs.JsonText

/-!
# What limits on JSON texts do

A reader with limits accepts a text exactly if the reader without limits accepts
it, no numeral of the text has too many digits before its point, and the value
is not nested too deeply; and it then finds the same value.  So limits never
change what a text denotes.  The digits are a matter of the text, since a value
does not keep where the point stood; the depth is a matter of the value.
-/

namespace LispDatum.Json

open LispDatum.Numeral

/-! ## How deep a value is nested -/

mutual

/-- How many arrays and objects lie inside each other, where those without parts
do not count. -/
def nesting : Json → Nat
  | .array items => itemsNesting items
  | .object members => membersNesting members
  | _ => 0

/-- The nesting of an array with the given items. -/
def itemsNesting : List Json → Nat
  | [] => 0
  | item :: items => max (nesting item + 1) (itemsNesting items)

/-- The nesting of an object with the given members. -/
def membersNesting : List (String × Json) → Nat
  | [] => 0
  | (_, value) :: members => max (nesting value + 1) (membersNesting members)

end

theorem itemsNesting_pos {items : List Json} (hne : items ≠ []) :
    0 < itemsNesting items := by
  cases items with
  | nil => contradiction
  | cons item items =>
    rw [itemsNesting]
    omega

theorem itemsNesting_append (left right : List Json) :
    itemsNesting (left ++ right) =
      max (itemsNesting left) (itemsNesting right) := by
  induction left with
  | nil => simp [itemsNesting]
  | cons item left hind =>
    rw [List.cons_append, itemsNesting, itemsNesting, hind, max_assoc]

theorem itemsNesting_reverse (items : List Json) :
    itemsNesting items.reverse = itemsNesting items := by
  induction items with
  | nil => rfl
  | cons item items hind =>
    rw [List.reverse_cons, itemsNesting_append, hind, max_comm]
    simp [itemsNesting]

theorem membersNesting_eq (members : List (String × Json)) :
    membersNesting members = itemsNesting (members.map Prod.snd) := by
  induction members with
  | nil => rfl
  | cons member members hind =>
    rw [List.map_cons, itemsNesting, ← hind, membersNesting]

theorem membersNesting_pos {members : List (String × Json)}
    (hne : members ≠ []) : 0 < membersNesting members := by
  rw [membersNesting_eq]
  apply itemsNesting_pos
  simpa using hne

theorem membersNesting_reverse (members : List (String × Json)) :
    membersNesting members.reverse = membersNesting members := by
  rw [membersNesting_eq, List.map_reverse, itemsNesting_reverse,
    ← membersNesting_eq]

/-! ## How deep a stage is nested -/

/-- The nesting of what an open array or object has already. -/
def Frame.nesting : Frame → Nat
  | .array items => itemsNesting items
  | .member members _ => membersNesting members

/-- The nesting of open arrays and objects, each of which has a part that is
taken or underway. -/
def framesNesting : List Frame → Nat
  | [] => 0
  | frame :: frames =>
    max (framesNesting frames) (frames.length + max 1 frame.nesting)

/-- The nesting of all that has been taken. -/
def Stage.nesting : Stage → Nat
  | .valueDue frames | .itemOrEnd frames | .keyOrEnd frames =>
    framesNesting frames
  | .afterItem items frames =>
    max (framesNesting frames) (frames.length + itemsNesting items)
  | .keyDue members frames | .afterMember members frames =>
    max (framesNesting frames) (frames.length + membersNesting members)
  | .colonDue members key frames =>
    framesNesting (.member members key :: frames)
  | .complete value => value.nesting

/-- An array or object that is said to have a part has one. -/
def Stage.HasParts : Stage → Prop
  | .afterItem items _ => items ≠ []
  | .keyDue members _ | .afterMember members _ => members ≠ []
  | _ => True

theorem length_le_framesNesting (frames : List Frame) :
    frames.length ≤ framesNesting frames := by
  cases frames with
  | nil => exact le_refl 0
  | cons frame frames =>
    rw [framesNesting, List.length_cons]
    omega

theorem nesting_close (value : Json) (frames : List Frame) :
    (Stage.close value frames).nesting =
      max (framesNesting frames) (frames.length + value.nesting) := by
  cases frames with
  | nil => simp [Stage.close, Stage.nesting, framesNesting]
  | cons frame frames =>
    cases frame <;>
      simp only [Stage.close, Stage.nesting, framesNesting, Frame.nesting,
        itemsNesting, membersNesting, List.length_cons] <;>
      omega

theorem nesting_close_flat {value : Json} (hvalue : value.nesting = 0)
    (frames : List Frame) :
    (Stage.close value frames).nesting = framesNesting frames := by
  rw [nesting_close, hvalue, Nat.add_zero]
  exact max_eq_left (length_le_framesNesting frames)

theorem hasParts_close (value : Json) (frames : List Frame) :
    (Stage.close value frames).HasParts := by
  cases frames with
  | nil => trivial
  | cons frame frames => cases frame <;> exact List.cons_ne_nil _ _

/-! ## Limits on the depth -/

theorem Limits.allowsDepth_of_le {limits : Limits} {less more : Nat}
    (hle : less ≤ more) (hmore : limits.allowsDepth more = true) :
    limits.allowsDepth less = true := by
  cases limits with
  | mk digits countsSign depth =>
    cases depth with
    | none => rfl
    | some most =>
      have hmost : more ≤ most := of_decide_eq_true hmore
      exact decide_eq_true (hle.trans hmost)

theorem Limits.allowsDepth_max (limits : Limits) (left right : Nat) :
    limits.allowsDepth (max left right) =
      (limits.allowsDepth left && limits.allowsDepth right) := by
  cases limits with
  | mk digits countsSign depth =>
    cases depth with
    | none => rfl
    | some most => simp [allowsDepth]

/-- A token that is a value has no parts. -/
def Token.IsFlat : Token → Prop
  | .scalar value => value.nesting = 0
  | _ => True

/-- What limits make of a step that is taken without them: it is taken if what
has been taken with it is not nested too deeply. -/
structure Stage.StepsTo (stage : Stage) (token : Token) (next : Stage) :
    Prop where
  hasParts : next.HasParts
  nesting_le : stage.nesting ≤ next.nesting
  take_eq : ∀ limits : Limits, limits.allowsDepth stage.nesting = true →
    stage.take limits token =
      if limits.allowsDepth next.nesting then some next else none

theorem nesting_of_takeValue {frames : List Frame} {token : Token}
    {next : Stage} (hflat : token.IsFlat)
    (htake : Stage.takeValue frames token = some next) :
    next.nesting = framesNesting frames ∧ next.HasParts := by
  cases token with
  | scalar value =>
    obtain rfl := Option.some.inj htake
    exact ⟨nesting_close_flat hflat frames, hasParts_close _ _⟩
  | string contents =>
    obtain rfl := Option.some.inj htake
    exact ⟨nesting_close_flat rfl frames, hasParts_close _ _⟩
  | openArray =>
    obtain rfl := Option.some.inj htake
    exact ⟨rfl, trivial⟩
  | openObject =>
    obtain rfl := Option.some.inj htake
    exact ⟨rfl, trivial⟩
  | closeArray | closeObject | colon | comma => exact absurd htake nofun

/-- A step that the limits do not look at. -/
theorem Stage.StepsTo.of_unlimited {stage next : Stage} {token : Token}
    (hparts : next.HasParts) (hnesting : next.nesting = stage.nesting)
    (htake : ∀ limits : Limits, stage.take limits token = some next) :
    stage.StepsTo token next where
  hasParts := hparts
  nesting_le := hnesting.ge
  take_eq := by
    intro limits hallowed
    rw [htake limits, hnesting, if_pos hallowed]

/-- A step into an array or object. -/
theorem Stage.StepsTo.of_descend {stage next : Stage} {token : Token}
    {frames : List Frame} (hparts : next.HasParts)
    (hstage : stage.nesting = framesNesting frames)
    (hnext : next.nesting = max (framesNesting frames) (frames.length + 1))
    (htake : ∀ limits : Limits,
      stage.take limits token = descend limits frames (some next)) :
    stage.StepsTo token next where
  hasParts := hparts
  nesting_le := by
    rw [hstage, hnext]
    exact le_max_left _ _
  take_eq := by
    intro limits hallowed
    rw [hstage] at hallowed
    rw [htake limits, descend, hnext, Limits.allowsDepth_max, hallowed,
      Bool.true_and]

theorem descend_unlimited (frames : List Frame) (stage : Option Stage) :
    Stage.descend {} frames stage = stage := rfl

theorem take_itemOrEnd (limits : Limits) (frames : List Frame) {token : Token}
    (hclose : token ≠ .closeArray) :
    Stage.take limits (.itemOrEnd frames) token =
      Stage.descend limits frames
        (Stage.takeValue (.array [] :: frames) token) := by
  cases token <;> first | rfl | contradiction

/-- Each step without limits becomes one with limits.  Only the steps that take
the first part of an array or object are looked at. -/
theorem stepsTo_of_take {stage next : Stage} {token : Token}
    (hparts : stage.HasParts) (hflat : token.IsFlat)
    (htake : stage.take {} token = some next) : stage.StepsTo token next := by
  cases stage with
  | valueDue frames =>
    obtain ⟨hnesting, hnext⟩ := nesting_of_takeValue hflat htake
    exact .of_unlimited hnext hnesting fun _ => htake
  | itemOrEnd frames =>
    by_cases hclose : token = .closeArray
    · subst hclose
      obtain rfl := Option.some.inj htake
      refine .of_unlimited (hasParts_close _ _) ?_ fun _ => rfl
      exact nesting_close_flat rfl frames
    · rw [take_itemOrEnd _ _ hclose, descend_unlimited] at htake
      obtain ⟨hnesting, hnext⟩ := nesting_of_takeValue hflat htake
      refine .of_descend hnext rfl hnesting ?_
      intro limits
      rw [take_itemOrEnd _ _ hclose, htake]
  | afterItem items frames =>
    have hpos := itemsNesting_pos hparts
    cases token with
    | comma =>
      obtain rfl := Option.some.inj htake
      refine .of_unlimited trivial ?_ fun _ => rfl
      simp only [Stage.nesting, framesNesting, Frame.nesting]
      omega
    | closeArray =>
      obtain rfl := Option.some.inj htake
      refine .of_unlimited (hasParts_close _ _) ?_ fun _ => rfl
      rw [nesting_close, Json.nesting, itemsNesting_reverse, Stage.nesting]
    | _ => exact absurd htake nofun
  | keyOrEnd frames =>
    cases token with
    | closeObject =>
      obtain rfl := Option.some.inj htake
      refine .of_unlimited (hasParts_close _ _) ?_ fun _ => rfl
      exact nesting_close_flat rfl frames
    | string key =>
      obtain rfl := Option.some.inj htake
      exact .of_descend trivial rfl rfl fun _ => rfl
    | _ => exact absurd htake nofun
  | keyDue members frames =>
    have hpos := membersNesting_pos hparts
    cases token with
    | string key =>
      obtain rfl := Option.some.inj htake
      refine .of_unlimited trivial ?_ fun _ => rfl
      simp only [Stage.nesting, framesNesting, Frame.nesting]
      omega
    | _ => exact absurd htake nofun
  | colonDue members key frames =>
    cases token with
    | colon =>
      obtain rfl := Option.some.inj htake
      exact .of_unlimited trivial rfl fun _ => rfl
    | _ => exact absurd htake nofun
  | afterMember members frames =>
    cases token with
    | comma =>
      obtain rfl := Option.some.inj htake
      exact .of_unlimited hparts rfl fun _ => rfl
    | closeObject =>
      obtain rfl := Option.some.inj htake
      refine .of_unlimited (hasParts_close _ _) ?_ fun _ => rfl
      rw [nesting_close, Json.nesting, membersNesting_reverse, Stage.nesting]
    | _ => exact absurd htake nofun
  | complete value => exact absurd htake nofun

/-- Limits can only stop a step. -/
theorem take_eq_or_eq_none (limits : Limits) (stage : Stage) (token : Token) :
    stage.take limits token = stage.take {} token ∨
      stage.take limits token = none := by
  have hdescend (frames : List Frame) (next : Option Stage) :
      Stage.descend limits frames next = next ∨
        Stage.descend limits frames next = none := by
    rw [Stage.descend]
    split_ifs
    · exact .inl rfl
    · exact .inr rfl
  cases stage with
  | valueDue frames => exact .inl rfl
  | itemOrEnd frames =>
    by_cases hclose : token = .closeArray
    · rw [hclose]
      exact .inl rfl
    · rw [take_itemOrEnd _ _ hclose, take_itemOrEnd _ _ hclose]
      exact hdescend frames _
  | keyOrEnd frames =>
    cases token with
    | string key => exact hdescend frames _
    | _ => exact .inl rfl
  | _ => cases token <;> exact .inl rfl

theorem nesting_le_of_foldlM_take {tokens : List Token}
    (hflat : ∀ token ∈ tokens, token.IsFlat) {stage final : Stage}
    (hparts : stage.HasParts)
    (hfold : tokens.foldlM (Stage.take {}) stage = some final) :
    stage.nesting ≤ final.nesting := by
  induction tokens generalizing stage with
  | nil =>
    obtain rfl := Option.some.inj hfold
    exact le_refl _
  | cons token tokens hind =>
    obtain ⟨htoken, hothers⟩ := List.forall_mem_cons.1 hflat
    rw [List.foldlM_cons, Option.bind_eq_bind, Option.bind_eq_some_iff] at hfold
    obtain ⟨next, htake, hrest⟩ := hfold
    have hstep := stepsTo_of_take hparts htoken htake
    exact hstep.nesting_le.trans (hind hothers hstep.hasParts hrest)

/-- What one step keeps, a run keeps: it goes through with limits exactly if it
does without them and its end is not nested too deeply. -/
theorem foldlM_take_eq_some_iff {limits : Limits} {tokens : List Token}
    (hflat : ∀ token ∈ tokens, token.IsFlat) {stage final : Stage}
    (hparts : stage.HasParts)
    (hallowed : limits.allowsDepth stage.nesting = true) :
    tokens.foldlM (Stage.take limits) stage = some final ↔
      tokens.foldlM (Stage.take {}) stage = some final ∧
        limits.allowsDepth final.nesting = true := by
  induction tokens generalizing stage with
  | nil =>
    rw [List.foldlM_nil, List.foldlM_nil]
    constructor
    · intro hfold
      obtain rfl := Option.some.inj hfold
      exact ⟨rfl, hallowed⟩
    · exact And.left
  | cons token tokens hind =>
    obtain ⟨htoken, hothers⟩ := List.forall_mem_cons.1 hflat
    simp only [List.foldlM_cons, Option.bind_eq_bind, Option.bind_eq_some_iff]
    constructor
    · rintro ⟨next, htake, hrest⟩
      rcases take_eq_or_eq_none limits stage token with hsame | hnone
      · rw [htake] at hsame
        have hstep := stepsTo_of_take hparts htoken hsame.symm
        have hnext : limits.allowsDepth next.nesting = true := by
          by_contra hdeep
          rw [hstep.take_eq limits hallowed, if_neg hdeep] at htake
          contradiction
        obtain ⟨hfold, hfinal⟩ :=
          (hind hothers hstep.hasParts hnext).1 hrest
        exact ⟨⟨next, hsame.symm, hfold⟩, hfinal⟩
      · rw [hnone] at htake
        contradiction
    · rintro ⟨⟨next, htake, hrest⟩, hfinal⟩
      have hstep := stepsTo_of_take hparts htoken htake
      have hle := nesting_le_of_foldlM_take hothers hstep.hasParts hrest
      have hnext := Limits.allowsDepth_of_le hle hfinal
      refine ⟨next, ?_, (hind hothers hstep.hasParts hnext).2 ⟨hrest, hfinal⟩⟩
      rw [hstep.take_eq limits hallowed, if_pos hnext]

theorem ofTokens?_eq_some_iff {limits : Limits} {tokens : List Token}
    {value : Json} :
    ofTokens? limits tokens = some value ↔
      tokens.foldlM (Stage.take limits) (.valueDue []) =
        some (.complete value) := by
  rw [ofTokens?]
  split
  · next found hfold => simp [hfold]
  · next hfold =>
    constructor
    · nofun
    · intro hcomplete
      exact absurd hcomplete (hfold value)

/-- A document that is read without limits is read with them exactly if it is
not nested too deeply. -/
theorem ofTokens?_limits_iff {limits : Limits} {tokens : List Token}
    (hflat : ∀ token ∈ tokens, token.IsFlat) {value : Json} :
    ofTokens? limits tokens = some value ↔
      ofTokens? {} tokens = some value ∧
        limits.allowsDepth value.nesting = true := by
  have hstart : limits.allowsDepth 0 = true := by
    cases limits with
    | mk digits countsSign depth => cases depth <;> simp [Limits.allowsDepth]
  rw [ofTokens?_eq_some_iff, ofTokens?_eq_some_iff]
  exact foldlM_take_eq_some_iff hflat trivial hstart

/-! ## Limits on the digits -/

/-- A token of a text starts where so much of it is left. -/
inductive StartsToken : List Char → List Char → Prop where
  | here {char : Char} {rest : List Char} (hblank : isBlank char = false) :
      StartsToken (char :: rest) (char :: rest)
  | blank {char : Char} {rest start : List Char} (hblank : isBlank char = true)
      (hrest : StartsToken rest start) : StartsToken (char :: rest) start
  | behind {char : Char} {rest after start : List Char} {token : Token}
      (hblank : isBlank char = false)
      (hread : nextToken {} (char :: rest) = some (token, after))
      (hafter : StartsToken after start) : StartsToken (char :: rest) start

/-- The number of digits ahead, behind a minus if there is one.  Of a numeral,
these are the digits before the point. -/
def wholeLength (chars : List Char) : Nat :=
  ((dropMinus chars).takeWhile Char.isDigit).length

/-- The limits allow so many digits ahead behind such a sign. -/
def Limits.allowsAhead (limits : Limits) (chars : List Char) : Bool :=
  limits.allowsDigits (hasMinus chars) (wholeLength chars)

theorem Limits.allowsDigits_zero (limits : Limits) (negative : Bool) :
    limits.allowsDigits negative 0 = true := by
  cases limits with
  | mk digits countsSign depth => cases digits <;> simp [allowsDigits]

/-- No limit forbids a text that has no digits in front. -/
theorem Limits.allowsAhead_of_wholeLength {chars : List Char}
    (hnone : wholeLength chars = 0) (limits : Limits) :
    limits.allowsAhead chars = true := by
  rw [allowsAhead, hnone]
  exact limits.allowsDigits_zero _

theorem whole_of_readWhole {chars whole after : List Char}
    (hread : readWhole chars = some (whole, after)) :
    whole = chars.takeWhile Char.isDigit := by
  have hdigits : readDigits chars = some (whole, after) := by
    rw [readWhole] at hread
    split at hread
    · contradiction
    · exact hread
  rw [readDigits] at hdigits
  split at hdigits
  · contradiction
  · exact (Prod.mk.inj (Option.some.inj hdigits)).1.symm

theorem whole_of_readMagnitude {chars after : List Char}
    {magnitude : Magnitude}
    (hread : readMagnitude chars = some (magnitude, after)) :
    magnitude.whole = chars.takeWhile Char.isDigit := by
  simp only [readMagnitude, Option.bind_eq_bind, Option.bind_eq_some_iff,
    Option.pure_def, Option.some.injEq, Prod.mk.injEq] at hread
  obtain ⟨⟨whole, rest⟩, hwhole, ⟨fraction, tail⟩, -, ⟨exponent, last⟩, -,
    hmagnitude, -⟩ := hread
  rw [← hmagnitude]
  exact whole_of_readWhole hwhole

theorem readSigned_eq (limits : Limits) (sign : Int) (chars : List Char) :
    readSigned limits sign chars =
      if limits.allowsDigits (sign < 0)
          (chars.takeWhile Char.isDigit).length then
        readSigned {} sign chars
      else none := by
  cases hread : readMagnitude chars with
  | none => simp [readSigned, hread]
  | some read =>
    obtain ⟨magnitude, after⟩ := read
    have hunlimited (count : Nat) :
        ({} : Limits).allowsDigits (sign < 0) count = true := rfl
    simp [readSigned, hread, whole_of_readMagnitude hread, hunlimited]

theorem hasMinus_eq_false {chars : List Char}
    (hminus : ∀ rest, chars ≠ '-' :: rest) :
    hasMinus chars = false ∧ dropMinus chars = chars := by
  cases chars with
  | nil => exact ⟨rfl, rfl⟩
  | cons first rest =>
    have hfirst : first ≠ '-' := by
      rintro rfl
      exact hminus rest rfl
    refine ⟨by simpa [hasMinus] using hfirst, ?_⟩
    rw [dropMinus]
    intro others heq
    exact hminus others heq

theorem readNumeral_eq (limits : Limits) (chars : List Char) :
    readNumeral limits chars =
      if limits.allowsAhead chars then readNumeral {} chars
      else none := by
  rw [readNumeral.eq_def, readNumeral.eq_def {}]
  split
  · exact readSigned_eq limits (-1) _
  · next hminus =>
    obtain ⟨hnone, hdrop⟩ := hasMinus_eq_false hminus
    rw [Limits.allowsAhead, wholeLength, hnone, hdrop]
    exact readSigned_eq limits 1 chars

theorem eq_append_of_afterWord? {word chars after : List Char}
    (hafter : afterWord? word chars = some after) : chars = word ++ after := by
  fun_induction afterWord? word chars with
  | case1 chars => exact Option.some.inj hafter
  | case2 => contradiction
  | case3 word char chars hind => rw [hind hafter, List.cons_append]
  | case4 => contradiction

/-- A word of JSON has neither digits in front nor a minus and digits. -/
theorem wholeLength_of_readWord {chars : List Char} {read : Json × List Char}
    (hread : readWord chars = some read) : wholeLength chars = 0 := by
  obtain ⟨entry, hmem, hentry⟩ := List.exists_of_findSome?_eq_some hread
  obtain ⟨rest, hafter, -⟩ := Option.map_eq_some_iff.1 hentry
  rw [eq_append_of_afterWord? hafter]
  simp only [words, List.mem_cons, List.not_mem_nil, or_false] at hmem
  rcases hmem with rfl | rfl | rfl | rfl | rfl | rfl <;> rfl

theorem readScalar_eq (limits : Limits) (chars : List Char) :
    readScalar limits chars =
      if limits.allowsAhead chars then readScalar {} chars
      else none := by
  rw [readScalar, readScalar]
  cases hword : readWord chars with
  | none => exact readNumeral_eq limits chars
  | some read =>
    rw [if_pos (limits.allowsAhead_of_wholeLength
      (wholeLength_of_readWord hword))]

theorem nextToken_eq (limits : Limits) (chars : List Char) :
    nextToken limits chars =
      if limits.allowsAhead chars then nextToken {} chars
      else none := by
  rw [nextToken.eq_def, nextToken.eq_def {}]
  split
  iterate 7 · exact (if_pos (limits.allowsDigits_zero _)).symm
  · rw [readScalar_eq limits]
    split_ifs <;> rfl

theorem startsToken_blank_iff {char : Char} {rest start : List Char}
    (hblank : isBlank char = true) :
    StartsToken (char :: rest) start ↔ StartsToken rest start := by
  constructor
  · intro hstarts
    cases hstarts with
    | here hother | behind hother => simp [hother] at hblank
    | blank _ hrest => exact hrest
  · exact .blank hblank

theorem startsToken_token_iff {char : Char} {rest after start : List Char}
    {token : Token} (hblank : isBlank char = false)
    (hread : nextToken {} (char :: rest) = some (token, after)) :
    StartsToken (char :: rest) start ↔
      start = char :: rest ∨ StartsToken after start := by
  constructor
  · intro hstarts
    cases hstarts with
    | here _ => exact .inl rfl
    | blank hother => simp [hother] at hblank
    | behind _ hother hafter =>
      rw [hread] at hother
      obtain ⟨rfl, rfl⟩ := Prod.mk.inj (Option.some.inj hother)
      exact .inr hafter
  · rintro (rfl | hafter)
    · exact .here hblank
    · exact .behind hblank hread hafter

theorem tokens?_blank (limits : Limits) {char : Char} (rest : List Char)
    (hblank : isBlank char = true) :
    tokens? limits (char :: rest) = tokens? limits rest := by
  rw [tokens?, if_pos hblank]

/-- The text has no numeral with more digits before its point than the limits
allow. -/
def FitsDigits (limits : Limits) (text : List Char) : Prop :=
  ∀ start, StartsToken text start → limits.allowsAhead start = true

theorem fitsDigits_nil (limits : Limits) : FitsDigits limits [] := by
  intro start hstarts
  cases hstarts

theorem fitsDigits_blank_iff {limits : Limits} {char : Char} {rest : List Char}
    (hblank : isBlank char = true) :
    FitsDigits limits (char :: rest) ↔ FitsDigits limits rest := by
  simp only [FitsDigits, startsToken_blank_iff hblank]

theorem fitsDigits_token_iff {limits : Limits} {char : Char}
    {rest after : List Char} {token : Token} (hblank : isBlank char = false)
    (hread : nextToken {} (char :: rest) = some (token, after)) :
    FitsDigits limits (char :: rest) ↔
      limits.allowsAhead (char :: rest) = true ∧
        FitsDigits limits after := by
  simp only [FitsDigits, startsToken_token_iff hblank hread, or_imp,
    forall_and, forall_eq]

/-- A text that is taken apart without limits is taken apart with them, into the
same tokens, exactly if its numerals are not too long. -/
theorem tokens?_eq_some_iff {limits : Limits} {text : List Char}
    {tokens : List Token} :
    tokens? limits text = some tokens ↔
      tokens? {} text = some tokens ∧ FitsDigits limits text := by
  induction text using tokens?.induct {} generalizing tokens with
  | case1 =>
    rw [tokens?, tokens?]
    exact (and_iff_left (fitsDigits_nil limits)).symm
  | case2 char rest hblank hind =>
    rw [tokens?_blank limits rest hblank, tokens?_blank {} rest hblank,
      fitsDigits_blank_iff hblank]
    exact hind
  | case3 char rest hblank hread =>
    rw [Bool.not_eq_true] at hblank
    rw [tokens?_cons limits rest hblank, tokens?_cons {} rest hblank,
      nextToken_eq limits, hread]
    simp
  | case4 char rest hblank token after hread hind =>
    rw [Bool.not_eq_true] at hblank
    rw [tokens?_cons limits rest hblank, tokens?_cons {} rest hblank,
      nextToken_eq limits, hread, fitsDigits_token_iff hblank hread]
    by_cases hallowed : limits.allowsAhead (char :: rest) = true
    · simp only [hallowed, if_true, Option.bind_some, Option.map_eq_some_iff,
        hind, true_and]
      constructor
      · rintro ⟨others, ⟨hothers, hfits⟩, hsame⟩
        exact ⟨⟨others, hothers, hsame⟩, hfits⟩
      · rintro ⟨⟨others, hothers, hsame⟩, hfits⟩
        exact ⟨others, ⟨hothers, hfits⟩, hsame⟩
    · simp [hallowed]

/-! ## Documents -/

theorem nesting_of_readWord {chars after : List Char} {value : Json}
    (hread : readWord chars = some (value, after)) : value.nesting = 0 := by
  obtain ⟨entry, hmem, hentry⟩ := List.exists_of_findSome?_eq_some hread
  obtain ⟨rest, -, hvalue⟩ := Option.map_eq_some_iff.1 hentry
  obtain ⟨rfl, -⟩ := Prod.mk.inj hvalue
  simp only [words, List.mem_cons, List.not_mem_nil, or_false] at hmem
  rcases hmem with rfl | rfl | rfl | rfl | rfl | rfl <;> rfl

theorem nesting_of_readSigned {limits : Limits} {sign : Int}
    {chars after : List Char} {value : Json}
    (hread : readSigned limits sign chars = some (value, after)) :
    value.nesting = 0 := by
  simp only [readSigned, Option.bind_eq_bind, Option.bind_eq_some_iff] at hread
  obtain ⟨⟨magnitude, rest⟩, -, hwithin⟩ := hread
  split at hwithin
  · obtain ⟨rfl, -⟩ := Prod.mk.inj (Option.some.inj hwithin)
    rw [Magnitude.value]
    split <;> rfl
  · contradiction

theorem nesting_of_readScalar {limits : Limits} {chars after : List Char}
    {value : Json} (hread : readScalar limits chars = some (value, after)) :
    value.nesting = 0 := by
  rw [readScalar] at hread
  split at hread
  · next read hword =>
    rw [Option.some.inj hread] at hword
    exact nesting_of_readWord hword
  · rw [readNumeral.eq_def] at hread
    split at hread <;> exact nesting_of_readSigned hread

theorem isFlat_of_nextToken {limits : Limits} {chars after : List Char}
    {token : Token} (hread : nextToken limits chars = some (token, after)) :
    token.IsFlat := by
  rw [nextToken.eq_def] at hread
  split at hread
  case h_7 =>
    obtain ⟨read, -, heq⟩ := Option.map_eq_some_iff.1 hread
    obtain ⟨rfl, -⟩ := Prod.mk.inj heq
    trivial
  case h_8 =>
    obtain ⟨read, hscalar, heq⟩ := Option.map_eq_some_iff.1 hread
    obtain ⟨rfl, -⟩ := Prod.mk.inj heq
    exact nesting_of_readScalar hscalar
  all_goals
    obtain ⟨rfl, -⟩ := Prod.mk.inj (Option.some.inj hread)
    trivial

theorem isFlat_of_tokens? {limits : Limits} {text : List Char}
    {tokens : List Token} (htokens : tokens? limits text = some tokens) :
    ∀ token ∈ tokens, token.IsFlat := by
  induction text using tokens?.induct limits generalizing tokens with
  | case1 =>
    rw [tokens?] at htokens
    obtain rfl := Option.some.inj htokens
    exact fun token hmem => absurd hmem List.not_mem_nil
  | case2 char rest hblank hind =>
    rw [tokens?_blank limits rest hblank] at htokens
    exact hind htokens
  | case3 char rest hblank hread =>
    rw [Bool.not_eq_true] at hblank
    rw [tokens?_cons limits rest hblank, hread] at htokens
    contradiction
  | case4 char rest hblank token after hread hind =>
    rw [Bool.not_eq_true] at hblank
    rw [tokens?_cons limits rest hblank, hread, Option.bind_some] at htokens
    obtain ⟨others, hothers, rfl⟩ := Option.map_eq_some_iff.1 htokens
    exact List.forall_mem_cons.2 ⟨isFlat_of_nextToken hread, hind hothers⟩

/-- The text and its value keep to the limits. -/
structure KeepsTo (limits : Limits) (text : String) (value : Json) : Prop where
  digits : FitsDigits limits text.toList
  depth : limits.allowsDepth value.nesting = true

/-- Limits decide only whether a text is accepted, never what it denotes. -/
theorem parse?_limits_iff {limits : Limits} {text : String} {value : Json} :
    parse? limits text = some value ↔
      parse? {} text = some value ∧ KeepsTo limits text value := by
  simp only [parse?, Option.bind_eq_bind, Option.bind_eq_some_iff,
    @tokens?_eq_some_iff limits]
  constructor
  · rintro ⟨tokens, ⟨htokens, hdigits⟩, hvalue⟩
    obtain ⟨hfound, hdepth⟩ :=
      (ofTokens?_limits_iff (isFlat_of_tokens? htokens)).1 hvalue
    exact ⟨⟨tokens, htokens, hfound⟩, hdigits, hdepth⟩
  · rintro ⟨⟨tokens, htokens, hfound⟩, hdigits, hdepth⟩
    exact ⟨tokens, ⟨htokens, hdigits⟩,
      (ofTokens?_limits_iff (isFlat_of_tokens? htokens)).2 ⟨hfound, hdepth⟩⟩

end LispDatum.Json
