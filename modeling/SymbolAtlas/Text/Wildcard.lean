import SymbolAtlas.Text.Bytes

/-!
# Wildcard patterns

Two pattern languages are read into one form. The *contains* language has a run
and a single wildcard with a backslash to quote them, and ignores the case of
ASCII letters. The *glob* language adds sets of characters, has no quoting, and
tells every two characters apart. A pattern matches a text as a whole; both are
read up to their first null character.

A set that is never closed cannot match anything, so reading such a pattern
fails; so does a backslash with nothing behind it.

`matchesWhole` says what a pattern means. `attempt` decides the same with less
work: where no suffix of a text meets what stands behind a run, a run further in
front cannot help, so the search is given up as a whole. Main statement:
`attempt_eq_met_iff`, an attempt succeeds on just the texts that match.
-/

namespace SymbolAtlas.Text

/-- One element of a pattern. -/
inductive Wild where
  /-- Any run of characters, the empty run among them. -/
  | run
  /-- Any one character. -/
  | one
  /-- This character. -/
  | literal (c : Char)
  /-- One character inside some of the ranges, or outside all of them. -/
  | oneOf (inverted : Bool) (ranges : List (Char × Char))
  deriving DecidableEq, Repr

/-- Every suffix of a list, the longest first. -/
def suffixes {α : Type} : List α → List (List α)
  | [] => [[]]
  | a :: rest => (a :: rest) :: suffixes rest

/-- Whether a character lies in one of the ranges; an end may be left out by
writing the same character twice, and a reversed range is empty. -/
def inRanges (ranges : List (Char × Char)) (c : Char) : Bool :=
  ranges.any fun (low, high) => low.toNat ≤ c.toNat && c.toNat ≤ high.toNat

/-- Whether the elements match the whole text, when literal characters are
compared after folding. -/
def matchesWhole (fold : Char → Char) : List Wild → List Char → Bool
  | [], text => text.isEmpty
  | .run :: rest, text => (suffixes text).any (matchesWhole fold rest)
  | .one :: rest, text =>
    match text with
    | [] => false
    | _ :: after => matchesWhole fold rest after
  | .literal c :: rest, text =>
    match text with
    | [] => false
    | d :: after => fold c == fold d && matchesWhole fold rest after
  | .oneOf inverted ranges :: rest, text =>
    match text with
    | [] => false
    | d :: after => (inRanges ranges d != inverted) && matchesWhole fold rest after

/-- What an attempt to match a text comes to. -/
inductive Verdict where
  /-- The text matches. -/
  | met
  /-- The text does not match. -/
  | unmet
  /-- Neither the text nor any suffix of it matches. -/
  | hopeless
  deriving DecidableEq, Repr

/-- Try the suffixes of a text, the longest first, up to the first on which an
attempt does not merely fail. Where every one fails there is no hope. -/
def attemptSuffixes (attempt : List Char → Verdict) : List Char → Verdict
  | [] =>
    match attempt [] with
    | .unmet => .hopeless
    | verdict => verdict
  | c :: rest =>
    match attempt (c :: rest) with
    | .unmet => attemptSuffixes attempt rest
    | verdict => verdict

/-- Try to match elements with the whole text. -/
def attempt (fold : Char → Char) : List Wild → List Char → Verdict
  | [], text => if text.isEmpty then .met else .unmet
  | .run :: rest, text => attemptSuffixes (attempt fold rest) text
  | .one :: rest, text =>
    match text with
    | [] => .unmet
    | _ :: after => attempt fold rest after
  | .literal c :: rest, text =>
    match text with
    | [] => .unmet
    | d :: after => if fold c == fold d then attempt fold rest after else .unmet
  | .oneOf inverted ranges :: rest, text =>
    match text with
    | [] => .unmet
    | d :: after =>
      if inRanges ranges d != inverted then attempt fold rest after else .unmet

/-- The suffixes of a list are the lists it ends in. -/
theorem mem_suffixes_iff {α : Type} {ending list : List α} :
    ending ∈ suffixes list ↔ ending <:+ list := by
  induction list with
  | nil => simp [suffixes]
  | cons a rest hypothesis =>
    simp only [suffixes, List.mem_cons, hypothesis, List.suffix_cons_iff]

/-- What a verdict claims about a text and a set of texts. -/
def Verdict.Sound (matched : List Char → Bool) (text : List Char) : Verdict → Prop
  | met => matched text = true
  | unmet => matched text = false
  | hopeless => ∀ ending, ending <:+ text → matched ending = false

/-- A search through suffixes is sound for the texts with a suffix that matches. -/
theorem attemptSuffixes_sound (matched : List Char → Bool) (trial : List Char → Verdict)
    (sound : ∀ text, (trial text).Sound matched text) (text : List Char) :
    (attemptSuffixes trial text).Sound (fun text => (suffixes text).any matched) text := by
  have noneMatches : ∀ text : List Char, (∀ ending, ending <:+ text → matched ending = false) →
      Verdict.Sound (fun text => (suffixes text).any matched) text .hopeless := by
    intro text never ending isEnding
    simp only [List.any_eq_false, mem_suffixes_iff]
    intro inner isInner
    simp [never inner (isInner.trans isEnding)]
  induction text with
  | nil =>
    have here := sound []
    unfold attemptSuffixes
    cases verdict : trial [] with
    | met =>
      rw [verdict] at here
      simpa [Verdict.Sound, suffixes] using here
    | unmet =>
      rw [verdict] at here
      refine noneMatches [] fun ending isEnding => ?_
      rw [List.suffix_nil.1 isEnding]
      exact here
    | hopeless =>
      rw [verdict] at here
      exact noneMatches [] here
  | cons c rest hypothesis =>
    have here := sound (c :: rest)
    unfold attemptSuffixes
    cases verdict : trial (c :: rest) with
    | met =>
      rw [verdict] at here
      have found : matched (c :: rest) = true := here
      simp [Verdict.Sound, suffixes, found]
    | unmet =>
      rw [verdict] at here
      have fails : matched (c :: rest) = false := here
      cases behind : attemptSuffixes trial rest with
      | met =>
        rw [behind] at hypothesis
        have found : (suffixes rest).any matched = true := hypothesis
        simp [Verdict.Sound, suffixes, found]
      | unmet =>
        rw [behind] at hypothesis
        have missing : (suffixes rest).any matched = false := hypothesis
        simp [Verdict.Sound, suffixes, missing, fails]
      | hopeless =>
        rw [behind] at hypothesis
        refine noneMatches (c :: rest) fun ending isEnding => ?_
        rcases List.suffix_cons_iff.1 isEnding with whole | inner
        · rw [whole]
          exact fails
        · have missing := hypothesis ending inner
          simp only [List.any_eq_false, mem_suffixes_iff] at missing
          simpa using missing ending (List.suffix_refl ending)
    | hopeless =>
      rw [verdict] at here
      exact noneMatches (c :: rest) here

/-- An attempt on what stands behind one character is sound for that character and
the rest. -/
theorem sound_behind (matched : List Char → Bool) (test : Char → Bool) (verdict : Verdict)
    (d : Char) (after : List Char) (whole : List Char → Bool)
    (empty : whole [] = false)
    (step : ∀ e ending, whole (e :: ending) = (test e && matched ending))
    (sound : verdict.Sound matched after) :
    (if test d then verdict else .unmet).Sound whole (d :: after) := by
  cases tested : test d with
  | false => simp [Verdict.Sound, step, tested]
  | true =>
    simp only [if_true]
    cases verdict with
    | met =>
      have found : matched after = true := sound
      simp [Verdict.Sound, step, tested, found]
    | unmet =>
      have missing : matched after = false := sound
      simp [Verdict.Sound, step, tested, missing]
    | hopeless =>
      intro ending isEnding
      cases ending with
      | nil => exact empty
      | cons e inner =>
        have isInner : inner <:+ after := by
          rcases List.suffix_cons_iff.1 isEnding with same | further
          · exact (List.cons.inj same).2 ▸ List.suffix_refl inner
          · exact (List.suffix_cons e inner).trans further
        simp [step, sound inner isInner]

/-- Every verdict of an attempt is right. -/
theorem attempt_sound (fold : Char → Char) (elements : List Wild) (text : List Char) :
    (attempt fold elements text).Sound (matchesWhole fold elements) text := by
  induction elements generalizing text with
  | nil => cases text <;> simp [attempt, Verdict.Sound, matchesWhole]
  | cons element rest hypothesis =>
    cases element with
    | run => exact attemptSuffixes_sound _ _ hypothesis text
    | one =>
      cases text with
      | nil => simp [attempt, Verdict.Sound, matchesWhole]
      | cons d after =>
        exact sound_behind _ (fun _ => true) _ d after _ (by simp [matchesWhole])
          (by simp [matchesWhole]) (hypothesis after)
    | literal c =>
      cases text with
      | nil => simp [attempt, Verdict.Sound, matchesWhole]
      | cons d after =>
        exact sound_behind _ (fun e => fold c == fold e) _ d after _ (by simp [matchesWhole])
          (by simp [matchesWhole]) (hypothesis after)
    | oneOf inverted ranges =>
      cases text with
      | nil => simp [attempt, Verdict.Sound, matchesWhole]
      | cons d after =>
        exact sound_behind _ (fun e => inRanges ranges e != inverted) _ d after _
          (by simp [matchesWhole]) (by simp [matchesWhole]) (hypothesis after)

/-- An attempt succeeds on just the texts that match. -/
theorem attempt_eq_met_iff (fold : Char → Char) (elements : List Wild) (text : List Char) :
    attempt fold elements text = .met ↔ matchesWhole fold elements text = true := by
  have sound := attempt_sound fold elements text
  cases verdict : attempt fold elements text with
  | met =>
    rw [verdict] at sound
    simpa [Verdict.Sound] using sound
  | unmet =>
    rw [verdict] at sound
    have fails : matchesWhole fold elements text = false := sound
    simp [fails]
  | hopeless =>
    rw [verdict] at sound
    have fails := sound text (List.suffix_refl text)
    simp [fails]

/-- The elements of a contains pattern. -/
def likeElements : List Char → Option (List Wild)
  | [] => some []
  | ['\\'] => none
  | '\\' :: c :: rest => (likeElements rest).map (.literal c :: ·)
  | '%' :: rest => (likeElements rest).map (.run :: ·)
  | '_' :: rest => (likeElements rest).map (.one :: ·)
  | c :: rest => (likeElements rest).map (.literal c :: ·)

/-- A set that has been opened: its sense, its ranges so far, and the character
that a following hyphen would extend. -/
structure OpenSet where
  inverted : Bool
  ranges : List (Char × Char)
  prior : Option Char

/-- The elements of a glob pattern, from inside a set or from outside. A caret
behind the bracket inverts the set, a closing bracket in first place belongs to
it, and a hyphen makes a range when a character that did not itself end a range
stands before it and one other than the closing bracket behind it. -/
def globFrom : Option OpenSet → List Char → Option (List Wild)
  | none, [] => some []
  | some _, [] => none
  | none, '*' :: rest => (globFrom none rest).map (.run :: ·)
  | none, '?' :: rest => (globFrom none rest).map (.one :: ·)
  | none, '[' :: '^' :: ']' :: rest => globFrom (some ⟨true, [(']', ']')], none⟩) rest
  | none, '[' :: '^' :: rest => globFrom (some ⟨true, [], none⟩) rest
  | none, '[' :: ']' :: rest => globFrom (some ⟨false, [(']', ']')], none⟩) rest
  | none, '[' :: rest => globFrom (some ⟨false, [], none⟩) rest
  | none, c :: rest => (globFrom none rest).map (.literal c :: ·)
  | some set, ']' :: rest =>
    (globFrom none rest).map (.oneOf set.inverted set.ranges :: ·)
  | some ⟨inverted, ranges, some low⟩, '-' :: high :: rest =>
    if high = ']' then
      (globFrom none rest).map (.oneOf inverted (('-', '-') :: ranges) :: ·)
    else
      globFrom (some ⟨inverted, (low, high) :: ranges, none⟩) rest
  | some ⟨inverted, ranges, _⟩, c :: rest =>
    globFrom (some ⟨inverted, (c, c) :: ranges, some c⟩) rest

/-- The null character. -/
def null : Char := Char.ofNat 0

/-- The text before its first null character, which is as far as patterns and the
texts they are applied to are read. -/
def upToNull (text : String) : List Char :=
  text.toList.takeWhile fun c => c != null

/-- The character that stands for the two last code points of the first plane, which
no character can have, when a text is compared character by character. -/
def replacement : Char := Char.ofNat 0xFFFD

/-- A character as it is compared. -/
def comparedChar (c : Char) : Char :=
  if c.toNat = 0xFFFE ∨ c.toNat = 0xFFFF then replacement else c

/-- The characters of a text that are compared. -/
def comparedChars (text : String) : List Char :=
  (upToNull text).map comparedChar

/-- Whether a contains pattern matches a text, ignoring the case of ASCII letters. -/
def likeMatches (pattern text : String) : Bool :=
  match likeElements (comparedChars pattern) with
  | none => false
  | some elements => attempt Char.toLower elements (comparedChars text) = .met

/-- Whether a glob pattern matches a text. -/
def globMatches (pattern text : String) : Bool :=
  match globFrom none (comparedChars pattern) with
  | none => false
  | some elements => attempt id elements (comparedChars text) = .met

/-- A term with the wildcards and the backslash in it quoted. -/
def likeQuoted (term : List Char) : List Char :=
  term.flatMap fun c => if c = '%' ∨ c = '_' ∨ c = '\\' then ['\\', c] else [c]

/-- The contains pattern that finds a term literally, wherever it stands. -/
def containsPattern (term : List Char) : String :=
  String.ofList ('%' :: likeQuoted term ++ ['%'])

/-- The ordinary characters a glob pattern begins with. Every text it matches begins
with characters that are compared as they are. -/
def globStem (pattern : String) : List Char :=
  (upToNull pattern).takeWhile fun c => !(c = '*' || c = '?' || c = '[')

/-- Whether a glob pattern is its stem and one star, and so matches every text that
begins with the stem. -/
def isStemAndStar (pattern : String) : Bool :=
  upToNull pattern == globStem pattern ++ ['*']

/-- Patterns above this many bytes are refused where they would be applied. -/
def patternLimit : Nat := 50000

/-- Whether a pattern is too long to be applied. -/
def isOverlong (pattern : String) : Bool :=
  patternLimit < byteSize pattern.toList

end SymbolAtlas.Text
