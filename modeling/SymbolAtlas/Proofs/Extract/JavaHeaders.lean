import SymbolAtlas.Proofs.Extract.JavaPlaces
import SymbolAtlas.Proofs.Text.Slice

/-!
# Annotations in the signatures of Java declarations

The signature of a type, method or constructor is the text of its declaration up to the body. Of
the annotations among its modifiers only those in front of everything else are left out: the text
is taken from the first modifier that is none. An annotation behind a keyword stays.

`cutOut` is a text between two offsets without some of the parts in it. With it the signature is
stated twice: it is always the text without the annotations that come first, and it is the text
without all of them just when none stands behind another modifier.

The offsets of a node only say something where the tree fits the text. `isLaidOut` says so of a
tree: modifiers, and the parts of a declaration that has some, follow each other in the text with
nothing but blanks between them, the modifiers come first, and an annotation begins with its sign.
-/

namespace SymbolAtlas.Java

open Text (slice isBlank isBoundary words)

/-- Whether trees follow each other in a text from one offset to another, with nothing but blanks
around them. -/
def isSpaced (text : List Char) (stop : Nat) : Nat → List Tree → Bool
  | start, [] => decide (start ≤ stop) && (slice start stop text).all isBlank
  | start, tree :: rest =>
    decide (start ≤ tree.mark.start) && (slice start tree.mark.start text).all isBlank &&
      decide (tree.mark.start ≤ tree.mark.stop) &&
        (isBoundary text tree.mark.start && isBoundary text tree.mark.stop) &&
          isSpaced text stop tree.mark.stop rest

/-- Whether the symbols of nodes of a rule have their headers for signatures: those of types,
methods and constructors. -/
def isHeaded (rule : String) : Bool :=
  Form.ofRule rule = .typeDeclaration || Form.ofRule rule = .callable

/-- Whether a node and its parts stand in a text as they do in a tree of it, as far as headers are
concerned. -/
def fitsText (text : List Char) (mark : Mark) (children : List Tree) : Bool :=
  let isModifiers := fun (child : Tree) => decide (child.rule = "modifiers")
  let isModified := isHeaded mark.rule && children.any isModifiers
  (!(isModified || mark.rule = "modifiers") ||
      isBoundary text mark.start && isSpaced text mark.stop mark.start children) &&
    (!isModified || !children.tail.any isModifiers &&
      !children.any fun child => isModifiers child && child.fills "body") &&
    (!annotates mark.rule || (slice mark.start mark.stop text).head? = some '@')

mutual

/-- Whether every node of a tree stands in a text as in a tree of it. -/
def isLaidOut (text : List Char) : Tree → Bool
  | .node mark children => fitsText text mark children && isLaidOutAmong text children

/-- Whether every node of several trees stands in a text as in a tree of it. -/
def isLaidOutAmong (text : List Char) : List Tree → Bool
  | [] => true
  | tree :: rest => isLaidOut text tree && isLaidOutAmong text rest

end

/-- A text up to an offset, from another on, without the text of some trees. -/
def cutOut (text : List Char) (stop : Nat) : Nat → List Tree → List Char
  | start, [] => slice start stop text
  | start, tree :: rest =>
    slice start tree.mark.start text ++ cutOut text stop tree.mark.stop rest

/-- The modifiers of a declaration, annotations and others. -/
def modifierParts (children : List Tree) : List Tree :=
  match (namedTrees children).find? fun child => child.rule = "modifiers" with
  | some modifiers => modifiers.children
  | none => []

/-- Whether a tree is an annotation. -/
def isAnnotation (tree : Tree) : Bool :=
  annotates tree.rule

/-- The annotations among the modifiers of a declaration. -/
def annotations (children : List Tree) : List Tree :=
  (modifierParts children).filter isAnnotation

/-- The annotations in front of the first other modifier. -/
def leadingAnnotations (children : List Tree) : List Tree :=
  (modifierParts children).takeWhile isAnnotation

/-- The annotations behind the first other modifier. -/
def laterAnnotations (children : List Tree) : List Tree :=
  ((modifierParts children).dropWhile isAnnotation).filter isAnnotation

/-- The text of a declaration from its start up to its body, without the text of some parts. -/
def headerWithout (source : Source) (declaration : Tree) (parts : List Tree) : List Char :=
  cutOut source.text (headerStop declaration.mark declaration.children) declaration.mark.start parts

/-- The annotations are those in front and those behind. -/
theorem annotations_eq_append (children : List Tree) :
    annotations children = leadingAnnotations children ++ laterAnnotations children := by
  have front : (leadingAnnotations children).filter isAnnotation = leadingAnnotations children := by
    rw [List.filter_eq_self]
    exact List.all_eq_true.1 List.all_takeWhile
  rw [← front, leadingAnnotations, laterAnnotations, ← List.filter_append,
    List.takeWhile_append_dropWhile, annotations]

/-- The parts of trees that fit a text fit it. -/
theorem isLaidOut_of_mem {text : List Char} {trees : List Tree}
    (laid : isLaidOutAmong text trees = true) {tree : Tree} (inside : tree ∈ trees) :
    isLaidOut text tree = true := by
  induction trees with
  | nil => cases inside
  | cons first rest hypothesis =>
    obtain ⟨head, tail⟩ := Bool.and_eq_true_iff.1 laid
    rcases List.mem_cons.1 inside with rfl | later
    · exact head
    · exact hypothesis tail later

/-- The parts of a tree that fits a text fit it. -/
theorem isLaidOut_of_mem_children {text : List Char} {tree child : Tree}
    (laid : isLaidOut text tree = true) (inside : child ∈ tree.children) :
    isLaidOut text child = true := by
  obtain ⟨mark, children⟩ := tree
  exact isLaidOut_of_mem (Bool.and_eq_true_iff.1 laid).2 inside

/-- What passes from a node to its children passes down a path. -/
theorem IsPath.inherit {holds : Tree → Prop}
    (step : ∀ tree child, child ∈ tree.children → holds tree → holds child) {root node : Tree}
    {above : List Tree} (path : IsPath (node :: above)) (behind : [root] <:+ node :: above)
    (top : holds root) : holds node := by
  induction above generalizing node with
  | nil =>
    obtain ⟨rfl, -⟩ := List.cons.inj (behind.eq_of_length rfl)
    exact top
  | cons outer rest hypothesis =>
    obtain ⟨inside, path⟩ := List.isChain_cons_cons.1 path
    rcases List.suffix_cons_iff.1 behind with same | behind
    · simp at same
    · exact step outer node inside (hypothesis path behind)

section Spaced

variable {text : List Char} {stop start : Nat} {tree : Tree} {trees rest : List Tree}

/-- Trees that follow each other begin with the first and go on with the others. -/
theorem isSpaced_cons_iff :
    isSpaced text stop start (tree :: rest) = true ↔
      start ≤ tree.mark.start ∧ (slice start tree.mark.start text).all isBlank = true ∧
        tree.mark.start ≤ tree.mark.stop ∧ isBoundary text tree.mark.start = true ∧
          isBoundary text tree.mark.stop = true ∧
            isSpaced text stop tree.mark.stop rest = true := by
  simp only [isSpaced, Bool.and_eq_true, decide_eq_true_eq]
  tauto

/-- They end no earlier than they begin. -/
theorem le_of_isSpaced (spaced : isSpaced text stop start trees = true) : start ≤ stop := by
  induction trees generalizing start with
  | nil =>
    simp only [isSpaced, Bool.and_eq_true, decide_eq_true_eq] at spaced
    exact spaced.1
  | cons tree rest hypothesis =>
    obtain ⟨before, -, own, -, -, behind⟩ := isSpaced_cons_iff.1 spaced
    exact Nat.le_trans before (Nat.le_trans own (hypothesis behind))

/-- None of them begins earlier. -/
theorem le_start_of_isSpaced (spaced : isSpaced text stop start trees = true)
    (inside : tree ∈ trees) : start ≤ tree.mark.start := by
  induction trees generalizing start with
  | nil => cases inside
  | cons first rest hypothesis =>
    obtain ⟨before, -, own, -, -, behind⟩ := isSpaced_cons_iff.1 spaced
    rcases List.mem_cons.1 inside with rfl | later
    · exact before
    · exact Nat.le_trans before (Nat.le_trans own (hypothesis behind later))

/-- Blanks in front of them may be counted to the blanks around them. -/
theorem isSpaced_of_blank {earlier : Nat} (spaced : isSpaced text stop start trees = true)
    (before : earlier ≤ start) (blank : (slice earlier start text).all isBlank = true)
    (lower : isBoundary text earlier = true) (upper : isBoundary text start = true) :
    isSpaced text stop earlier trees = true := by
  cases trees with
  | nil =>
    simp only [isSpaced, Bool.and_eq_true, decide_eq_true_eq] at spaced ⊢
    refine ⟨Nat.le_trans before spaced.1, ?_⟩
    rw [← Text.slice_append_slice lower upper before spaced.1, List.all_append, blank, spaced.2]
    rfl
  | cons tree rest =>
    obtain ⟨reaches, gap, others⟩ := isSpaced_cons_iff.1 spaced
    refine isSpaced_cons_iff.2 ⟨Nat.le_trans before reaches, ?_, others⟩
    rw [← Text.slice_append_slice lower upper before reaches, List.all_append, blank, gap]
    rfl

/-- The offset behind the last of several trees that follow each other. -/
def offsetBehind (start : Nat) (trees : List Tree) : Nat :=
  trees.foldl (fun _ tree => tree.mark.stop) start

/-- The first of several trees that follow each other are cut out but for blanks. -/
theorem exists_cutOut_append (spaced : isSpaced text stop start (trees ++ rest) = true)
    (lower : isBoundary text start = true) (limit : Nat) :
    isBoundary text (offsetBehind start trees) = true ∧
      isSpaced text stop (offsetBehind start trees) rest = true ∧
        ∃ gaps : List Char, gaps.all isBlank = true ∧ ∀ others,
          cutOut text limit start (trees ++ others) =
            gaps ++ cutOut text limit (offsetBehind start trees) others := by
  induction trees generalizing start with
  | nil => exact ⟨lower, spaced, [], rfl, fun others => rfl⟩
  | cons tree later hypothesis =>
    obtain ⟨-, blank, -, -, upper, behind⟩ := isSpaced_cons_iff.1 spaced
    obtain ⟨boundary, remaining, gaps, blanks, cut⟩ := hypothesis behind upper
    refine ⟨boundary, remaining, slice start tree.mark.start text ++ gaps, ?_, ?_⟩
    · rw [List.all_append, blank, blanks]
      rfl
    · intro others
      rw [List.cons_append, cutOut, cut others, List.append_assoc]
      rfl

/-- A character stands in what is left and in what is cut out as often as in the whole text. -/
theorem count_cutOut (spaced : isSpaced text stop start trees = true) {limit first : Nat}
    (within : stop ≤ limit) (before : first ≤ start) (lower : isBoundary text first = true)
    (taken : Tree → Bool) (c : Char) :
    (cutOut text limit first (trees.filter taken)).count c +
        ((trees.filter taken).flatMap fun tree =>
          slice tree.mark.start tree.mark.stop text).count c =
      (slice first limit text).count c := by
  induction trees generalizing start first with
  | nil => simp [cutOut]
  | cons tree rest hypothesis =>
    obtain ⟨reaches, -, own, begins, ends, behind⟩ := isSpaced_cons_iff.1 spaced
    cases takes : taken tree with
    | false =>
      rw [List.filter_cons_of_neg (by simp [takes])]
      exact hypothesis behind (by omega) lower
    | true =>
      have upper : tree.mark.stop ≤ limit := Nat.le_trans (le_of_isSpaced behind) within
      have later := hypothesis behind (Nat.le_refl _) ends
      have whole : slice first limit text =
          slice first tree.mark.start text ++ (slice tree.mark.start tree.mark.stop text ++
            slice tree.mark.stop limit text) := by
        rw [Text.slice_append_slice begins ends own upper,
          Text.slice_append_slice lower begins (by omega) (by omega)]
      rw [List.filter_cons_of_pos takes, cutOut, List.flatMap_cons, List.count_append,
        List.count_append, whole, List.count_append, List.count_append]
      omega

end Spaced

/-- A text on one line is that of its words. -/
theorem collapsed_append_of_blank {front : List Char} (blank : front.all isBlank = true)
    (text : List Char) : collapsed (front ++ text) = collapsed text := by
  rw [collapsed, Text.words_append_of_blank blank, collapsed]

/-- Collapsing keeps every character that is neither blank nor a semicolon. -/
theorem count_collapsed {c : Char} (visible : isBlank c = false) (other : c ≠ ';')
    (text : List Char) : (collapsed text).toList.count c = text.count c := by
  have space : c ∉ [' '] := by
    rw [List.mem_singleton]
    rintro rfl
    exact absurd visible (by decide)
  rw [collapsed, String.toList_ofList, Text.trimEnd, Text.count_trimEndWhile visible,
    Text.count_trimEndWhile (by simpa using other), Text.count_joinWith space,
    Text.count_flatten_words visible]

/-- Modifiers that fit a text follow each other in it. -/
theorem spaced_of_modifiers {text : List Char} {tree : Tree} (laid : isLaidOut text tree = true)
    (rule : tree.rule = "modifiers") :
    isSpaced text tree.mark.stop tree.mark.start tree.children = true := by
  obtain ⟨mark, children⟩ := tree
  have fits := (Bool.and_eq_true_iff.1 laid).1
  have own : mark.rule = "modifiers" := rule
  simp only [fitsText, own, decide_true, Bool.or_true, Bool.not_true, Bool.false_or,
    Bool.and_eq_true] at fits
  exact fits.1.1.2

/-- A declaration that fits a text begins with its modifiers, if it has any, and its parts follow
each other in the text. -/
theorem modifiers_lead {text : List Char} {declaration modifiers : Tree}
    (laid : isLaidOut text declaration = true) (headed : isHeaded declaration.rule = true)
    (found : (namedTrees declaration.children).find? (fun child => child.rule = "modifiers") =
      some modifiers) :
    isBoundary text declaration.mark.start = true ∧
      isSpaced text declaration.mark.stop declaration.mark.start declaration.children = true ∧
        ∃ rest, declaration.children = modifiers :: rest ∧ modifiers.fills "body" = false := by
  obtain ⟨mark, children⟩ := declaration
  have fits := (Bool.and_eq_true_iff.1 laid).1
  have rule : modifiers.rule = "modifiers" := of_decide_eq_true (List.find?_some found :)
  have inside : modifiers ∈ children :=
    List.mem_of_mem_filter (List.mem_of_find?_eq_some found)
  have some : (children.any fun child => decide (child.rule = "modifiers")) = true :=
    List.any_eq_true.2 ⟨modifiers, inside, decide_eq_true rule⟩
  have declares : isHeaded mark.rule = true := headed
  simp only [fitsText, declares, some, Bool.and_self, Bool.true_or, Bool.not_true, Bool.false_or,
    Bool.and_eq_true, Bool.not_eq_true', List.any_eq_false, decide_eq_true_eq] at fits
  obtain ⟨⟨⟨lower, spaced⟩, others, bodies⟩, -⟩ := fits
  refine ⟨lower, spaced, ?_⟩
  have plain : modifiers.fills "body" = false := by
    rw [← Bool.not_eq_true]
    exact fun fills => bodies modifiers inside ⟨rule, fills⟩
  cases children with
  | nil => cases inside
  | cons first rest =>
    rcases List.mem_cons.1 inside with rfl | later
    · exact ⟨rest, rfl, plain⟩
    · exact absurd rule (others modifiers later)

/-- In a declaration that fits its text the modifiers follow each other from its start on, and they
end before its body. -/
theorem modifiers_spaced {text : List Char} {declaration modifiers : Tree}
    (laid : isLaidOut text declaration = true) (headed : isHeaded declaration.rule = true)
    (found : (namedTrees declaration.children).find? (fun child => child.rule = "modifiers") =
      some modifiers) :
    isBoundary text declaration.mark.start = true ∧ isBoundary text modifiers.mark.stop = true ∧
      isSpaced text modifiers.mark.stop declaration.mark.start modifiers.children = true ∧
        modifiers.mark.stop ≤ headerStop declaration.mark declaration.children := by
  obtain ⟨lower, spaced, rest, children, bodiless⟩ := modifiers_lead laid headed found
  have inner : isLaidOut text modifiers = true :=
    isLaidOut_of_mem_children laid (by rw [children]; exact List.mem_cons_self)
  have rule : modifiers.rule = "modifiers" := of_decide_eq_true (List.find?_some found :)
  have parts := spaced_of_modifiers inner rule
  rw [children] at spaced
  obtain ⟨before, blank, -, begins, ends, behind⟩ := isSpaced_cons_iff.1 spaced
  refine ⟨lower, ends, isSpaced_of_blank parts before blank lower begins, ?_⟩
  have later : fieldChild? "body" declaration.children = fieldChild? "body" rest := by
    rw [children]
    exact List.find?_cons_of_neg (by simp [bodiless])
  rw [headerStop, later]
  cases body : fieldChild? "body" rest with
  | none => exact le_of_isSpaced behind
  | some tree => exact le_start_of_isSpaced behind (List.mem_of_find?_eq_some body)

/-- The first modifier that is no annotation. -/
theorem find?_eq_head?_dropWhile (parts : List Tree) :
    (parts.find? fun child => !annotates child.rule) =
      (parts.dropWhile isAnnotation).head? := by
  induction parts with
  | nil => rfl
  | cons part rest hypothesis =>
    rw [List.find?_cons, List.dropWhile_cons, isAnnotation]
    cases annotates part.rule with
    | true => exact hypothesis
    | false => rfl

section Headers

variable {source : Source} {declaration modifiers : Tree}

/-- Up to blanks, the header begins where its first annotations have been cut out. -/
theorem exists_offset (laid : isLaidOut source.text declaration = true)
    (headed : isHeaded declaration.rule = true)
    (found : (namedTrees declaration.children).find? (fun child => child.rule = "modifiers") =
      some modifiers) :
    ∃ offset, isBoundary source.text offset = true ∧
      isSpaced source.text modifiers.mark.stop offset
        (modifiers.children.dropWhile isAnnotation) = true ∧
      (∃ gaps : List Char, gaps.all isBlank = true ∧ ∀ others,
        headerWithout source declaration (leadingAnnotations declaration.children ++ others) =
          gaps ++ cutOut source.text (headerStop declaration.mark declaration.children) offset
            others) ∧
      ∃ blanks : List Char, blanks.all isBlank = true ∧
        slice offset (headerStop declaration.mark declaration.children) source.text =
          blanks ++ slice (headerStart declaration.mark declaration.children)
            (headerStop declaration.mark declaration.children) source.text := by
  obtain ⟨lower, upper, spaced, within⟩ := modifiers_spaced laid headed found
  have leading : leadingAnnotations declaration.children =
      modifiers.children.takeWhile isAnnotation := by
    rw [leadingAnnotations, modifierParts, found]
  rw [← List.takeWhile_append_dropWhile (p := isAnnotation) (l := modifiers.children)] at spaced
  obtain ⟨boundary, remaining, gaps, blank, cut⟩ := exists_cutOut_append spaced lower
    (headerStop declaration.mark declaration.children)
  refine ⟨_, boundary, remaining, ⟨gaps, blank, fun others => ?_⟩, ?_⟩
  · rw [leading]
    exact cut others
  · rw [headerStart, found]
    dsimp only
    rw [find?_eq_head?_dropWhile]
    cases others : modifiers.children.dropWhile isAnnotation with
    | nil =>
      rw [others] at remaining
      simp only [isSpaced, Bool.and_eq_true, decide_eq_true_eq] at remaining
      exact ⟨_, remaining.2, (Text.slice_append_slice boundary upper remaining.1 within).symm⟩
    | cons keyword rest =>
      rw [others] at remaining
      obtain ⟨before, gap, own, begins, -, behind⟩ := isSpaced_cons_iff.1 remaining
      have reaches : keyword.mark.start ≤ headerStop declaration.mark declaration.children :=
        Nat.le_trans own (Nat.le_trans (le_of_isSpaced behind) within)
      exact ⟨_, gap, (Text.slice_append_slice boundary begins before reaches).symm⟩

/-- The header of a declaration is its text up to the body without the annotations that come
first. -/
theorem header_eq_without_leading (laid : isLaidOut source.text declaration = true)
    (headed : isHeaded declaration.rule = true) :
    header source declaration.mark declaration.children =
      collapsed (headerWithout source declaration
        (leadingAnnotations declaration.children)) := by
  cases found : (namedTrees declaration.children).find? fun child => child.rule = "modifiers" with
  | none => rw [header, headerStart, found, leadingAnnotations, modifierParts, found]; rfl
  | some modifiers =>
    obtain ⟨offset, -, -, ⟨gaps, blank, cut⟩, blanks, space, begins⟩ :=
      exists_offset laid headed found
    have text := cut []
    rw [List.append_nil, cutOut, begins] at text
    rw [text, collapsed_append_of_blank blank, collapsed_append_of_blank space, header]

/-- An annotation of a tree that fits a text holds its sign. -/
theorem sign_mem_of_annotates {text : List Char} {tree : Tree}
    (laid : isLaidOut text tree = true) (annotated : isAnnotation tree = true) :
    '@' ∈ slice tree.mark.start tree.mark.stop text := by
  obtain ⟨mark, children⟩ := tree
  have fits := (Bool.and_eq_true_iff.1 laid).1
  have annotates : annotates mark.rule = true := annotated
  simp only [fitsText, annotates, Bool.and_eq_true, Bool.not_true, Bool.false_or,
    decide_eq_true_eq] at fits
  exact List.mem_of_mem_head? fits.2

/-- The header of a declaration is its text without any of its annotations just when none of them
stands behind another modifier. -/
theorem header_eq_without_all_iff (laid : isLaidOut source.text declaration = true)
    (headed : isHeaded declaration.rule = true) :
    header source declaration.mark declaration.children =
        collapsed (headerWithout source declaration (annotations declaration.children)) ↔
      laterAnnotations declaration.children = [] := by
  rw [header_eq_without_leading laid headed, annotations_eq_append]
  constructor
  · intro same
    cases found : (namedTrees declaration.children).find? fun child =>
        child.rule = "modifiers" with
    | none => rw [laterAnnotations, modifierParts, found]; rfl
    | some modifiers =>
      obtain ⟨-, -, -, within⟩ := modifiers_spaced laid headed found
      obtain ⟨offset, boundary, remaining, ⟨gaps, blank, cut⟩, -⟩ := exists_offset laid headed found
      have plain := cut []
      rw [List.append_nil] at plain
      rw [plain, cut, collapsed_append_of_blank blank, collapsed_append_of_blank blank, cutOut]
        at same
      have signs := congrArg (fun text => text.toList.count '@') same
      rw [count_collapsed (by decide) (by decide), count_collapsed (by decide) (by decide)] at signs
      have counted := count_cutOut remaining within (Nat.le_refl offset) boundary isAnnotation '@'
      have later : laterAnnotations declaration.children =
          (modifiers.children.dropWhile isAnnotation).filter isAnnotation := by
        rw [laterAnnotations, modifierParts, found]
      rw [later] at signs ⊢
      -- so none of the later annotations holds a sign, and each of them does
      rw [List.eq_nil_iff_forall_not_mem]
      intro tree inside
      obtain ⟨among, annotated⟩ := List.mem_filter.1 inside
      have whole := isLaidOut_of_mem_children laid
        (List.mem_of_mem_filter (List.mem_of_find?_eq_some found))
      have part := isLaidOut_of_mem_children whole (List.dropWhile_subset _ among)
      have listed : '@' ∈ ((modifiers.children.dropWhile isAnnotation).filter isAnnotation).flatMap
          fun tree => slice tree.mark.start tree.mark.stop source.text :=
        List.mem_flatMap.2 ⟨tree, inside, sign_mem_of_annotates part annotated⟩
      have holds := List.count_pos_iff.2 listed
      omega
  · intro none
    rw [none, List.append_nil]

end Headers

/-- Whether symbols of a kind are those of types, methods and constructors. -/
def headedKind (kind : Kind) : Bool :=
  kind = .classLike || kind = .interface || kind = .method

/-- The symbols of types, methods and constructors are made at their declarations and have their
headers for signatures. -/
theorem Stop.IsOn.signature_of_headedKind {context : Context} {root : Tree} {stop : Stop}
    {symbol : Symbol} (on : stop.IsOn context root) (listed : symbol ∈ stop.symbols context)
    (headed : headedKind symbol.kind = true) :
    isHeaded stop.node.rule = true ∧
      symbol.signature = some (header context.source stop.node.mark stop.node.children) := by
  cases on with
  | declarator _ declares =>
    -- a declared variable is of another kind
    obtain rfl := List.mem_singleton.1 listed
    rcases declares with rfl | rfl <;> cases headed
  | component =>
    obtain rfl := List.mem_singleton.1 listed
    cases headed
  | @place role path scope node _ suits =>
    cases role with
    | type simple =>
      obtain rfl := List.mem_singleton.1 listed
      exact ⟨Bool.or_eq_true_iff.2 (.inl suits), rfl⟩
    | callable name =>
      obtain rfl := List.mem_singleton.1 listed
      exact ⟨Bool.or_eq_true_iff.2 (.inr suits), rfl⟩
    | declarator kind name written =>
      obtain rfl := List.mem_singleton.1 listed
      rcases Bool.or_eq_true_iff.1 suits with same | same <;>
        · obtain rfl := of_decide_eq_true same
          cases headed
    | component name written | constant name =>
      obtain rfl := List.mem_singleton.1 listed
      cases headed
    | call =>
      have listed : symbol ∈ context.callSymbols scope node.mark node.children := listed
      rw [Context.callSymbols] at listed
      split at listed
      next => cases listed
      next =>
        obtain rfl := List.mem_singleton.1 listed
        cases headed
    | use =>
      have listed : symbol ∈ context.useSymbols scope (parentRule (path.map Step.parent))
          node.mark := listed
      rw [Context.useSymbols.eq_def] at listed
      split at listed
      next => cases listed
      next =>
        split at listed
        next => cases listed
        next =>
          dsimp only at listed
          split at listed
          next => cases listed
          next =>
            obtain rfl := List.mem_singleton.1 listed
            cases headed

/-- In a file whose tree fits its text, the signature of a type, a method or a constructor is the
text of its declaration up to the body, on one line, without the annotations in front of its other
modifiers. It is the text without all annotations just when none stands behind another modifier. -/
theorem signature_without_leading_annotations (elsewhere : TypeIndex) (source : Source)
    (laid : isLaidOut source.text source.tree = true) :
    (made elsewhere source).map Prod.snd = symbols elsewhere source ∧
      ∀ stop symbol, (stop, symbol) ∈ made elsewhere source → headedKind symbol.kind = true →
        symbol.signature = some (collapsed (headerWithout source stop.node
          (leadingAnnotations stop.node.children))) ∧
        (symbol.signature = some (collapsed (headerWithout source stop.node
            (annotations stop.node.children))) ↔
          laterAnnotations stop.node.children = []) := by
  refine ⟨map_made elsewhere source, ?_⟩
  intro stop symbol emitted kind
  have on := isOn_of_mem_made emitted
  have fits : isLaidOut source.text stop.node = true :=
    on.isPlaced.nested.inherit (fun _ _ inside whole => isLaidOut_of_mem_children whole inside)
      on.isPlaced.behind laid
  obtain ⟨headed, signature⟩ := on.signature_of_headedKind (mem_made.1 emitted).2 kind
  rw [signature]
  constructor
  · exact congrArg some (header_eq_without_leading fits headed)
  · rw [Option.some_inj]
    exact header_eq_without_all_iff fits headed

/-- A class with a method that has annotations in front of and behind its keyword, and one that has
them in front only. -/
def annotatedMethods : Source :=
  let node := fun (rule field : String) (start stop : Nat) children =>
    Tree.node { rule := rule, fields := [field], start := start, stop := stop } children
  let token := fun (rule : String) (start : Nat) =>
    Tree.node { rule := rule, named := false, start := start, stop := start + rule.length } []
  let marker := fun (start : Nat) =>
    node "marker_annotation" "" start (start + 2)
      [token "@" start, node "identifier" "name" (start + 1) (start + 2) []]
  let first := node "method_declaration" "" 8 37
    [ node "modifiers" "" 8 26
        [ node "annotation" "" 8 13
            [ token "@" 8
            , node "identifier" "name" 9 10 []
            , node "annotation_argument_list" "" 10 13 [] ]
        , marker 14, token "public" 17, marker 24 ]
    , node "void_type" "type" 27 31 []
    , node "identifier" "name" 32 33 []
    , node "formal_parameters" "parameters" 33 35 []
    , node "block" "body" 35 37 [] ]
  let second := node "method_declaration" "" 37 58
    [ node "modifiers" "" 37 48 [marker 37, token "abstract" 40]
    , node "void_type" "type" 49 53 []
    , node "identifier" "name" 54 55 []
    , node "formal_parameters" "parameters" 55 57 []
    , token ";" 57 ]
  { relative := "A.java"
    text := ("class A\x7b@B(1) @C public @D void m()\x7b\x7d" ++
      "@E abstract void n();\x7d").toList
    tree := node "program" "" 0 59
      [ node "class_declaration" "" 0 59
          [ token "class" 0
          , node "identifier" "name" 6 7 []
          , node "class_body" "body" 7 59 [token "\x7b" 7, first, second, token "\x7d" 58] ] ] }

/-- Of that class the second method has the text without annotations, and the first has not. -/
theorem signature_without_leading_annotations_two_methods :
    isLaidOut annotatedMethods.text annotatedMethods.tree = true ∧
      ∃ first second, first ∈ made [] annotatedMethods ∧ second ∈ made [] annotatedMethods ∧
        first.2.signature ≠ some (collapsed (headerWithout annotatedMethods first.1.node
          (annotations first.1.node.children))) ∧
        second.2.signature = some (collapsed (headerWithout annotatedMethods second.1.node
          (annotations second.1.node.children))) := by
  have laid : isLaidOut annotatedMethods.text annotatedMethods.tree = true := by decide +kernel
  refine ⟨laid, ?_⟩
  have law := (signature_without_leading_annotations [] annotatedMethods laid).2
  have listed : (∃ first ∈ made [] annotatedMethods, headedKind first.2.kind = true ∧
        (laterAnnotations first.1.node.children).length = 1) ∧
      ∃ second ∈ made [] annotatedMethods, headedKind second.2.kind = true ∧
        second.2.name = "n" ∧ (laterAnnotations second.1.node.children).length = 0 := by
    decide +kernel
  obtain ⟨⟨first, emitted, declares, later⟩, second, among, heads, -, none⟩ := listed
  refine ⟨first, second, emitted, among, ?_, ?_⟩
  · intro same
    have empty := (law first.1 first.2 emitted declares).2.1 same
    rw [empty] at later
    exact absurd later (by decide)
  · exact (law second.1 second.2 among heads).2.2 (List.length_eq_zero_iff.1 none)

/-- An annotation behind a keyword stays in the signature. -/
theorem later_annotation_in_signature :
    ((made [] annotatedMethods).filter fun entry => entry.2.kind = .method).map
        (fun entry => (entry.2.signature, collapsed (headerWithout annotatedMethods entry.1.node
          (annotations entry.1.node.children)))) =
      [ (some "public @D void m()", "public void m()")
      , (some "abstract void n()", "abstract void n()") ] := by
  decide +kernel

end SymbolAtlas.Java
