/-
# JSON documents

What any document looks like on paper.  Values nest, so there is one relation for all parts of a
document (`Written`): a value, a row of elements, a row of members, and the pieces of such rows.  As
in flat documents, white space belongs to what stands before it, and an object is also kept as it is
written, with every occurrence of a name.  The relation counts levels: no more lists and objects
stand inside each other than there are.

Two things keep a text from being read that have nothing to do with the grammar: an integer can have
too many digits, and a list or an object can stand inside too many others.  Reading stops there,
whatever comes after it, and so it matters where it stands.  `ComesTo` says how such a text begins:
whatever comes before the obstacle is in order.
-/
import CloudAccess.Proofs.Json.Grammar

namespace CloudAccess.Json

/-! ## 1. Nested values -/

/-- What a list begins with. -/
abbrev listMark : CodePoint := '['

/-- What a list ends with. -/
abbrev listEndMark : CodePoint := ']'

/-- What a part of a document denotes.  An object has its members as they are written. -/
inductive Part where
  | value (v : Value)
  | object (ps : List (Text × Value))
  | element (v : Value)
  | elements (vs : List Value)
  | member (p : Text × Value)
  | members (ps : List (Text × Value))

/-- A part that a document may consist of. -/
def Part.IsWhole : Part → Prop
  | .value _ | .object _ => True
  | _ => False

/-- How the parts of a document are written that is nested no deeper than there are levels. -/
inductive Written : (levels : Nat) → Text → Part → Prop
  | scalar {n : Nat} {w : Text} {v : Value} (scalar : Scalar w v) : Written n w (.value v)
  | emptyList {n : Nat} {s : Text} (blank : Blank s) :
      Written (n + 1) (listMark :: (s ++ [listEndMark])) (.value (.list []))
  | list {n : Nat} {s w : Text} {vs : List Value} (blank : Blank s)
      (elements : Written n w (.elements vs)) :
      Written (n + 1) (listMark :: (s ++ (w ++ [listEndMark]))) (.value (.list vs))
  | emptyObject {n : Nat} {s : Text} (blank : Blank s) :
      Written (n + 1) (openMark :: (s ++ [closeMark])) (.object [])
  | object {n : Nat} {s w : Text} {ps : List (Text × Value)} (blank : Blank s)
      (members : Written n w (.members ps)) :
      Written (n + 1) (openMark :: (s ++ (w ++ [closeMark]))) (.object ps)
  /-- Of members with one name, the first gives the place and the last the value. -/
  | ofObject {n : Nat} {w : Text} {ps : List (Text × Value)} (object : Written n w (.object ps)) :
      Written n w (.value (.object (Dictionary.ofList ps).entries))
  | element {n : Nat} {w s : Text} {v : Value} (value : Written n w (.value v)) (blank : Blank s) :
      Written n (w ++ s) (.element v)
  | lastElement {n : Nat} {w : Text} {v : Value} (element : Written n w (.element v)) :
      Written n w (.elements [v])
  | moreElements {n : Nat} {w s ws : Text} {v : Value} {vs : List Value}
      (element : Written n w (.element v)) (blank : Blank s) (rest : Written n ws (.elements vs)) :
      Written n (w ++ commaMark :: (s ++ ws)) (.elements (v :: vs))
  | member {n : Nat} {b name s₁ s₂ w : Text} {v : Value} (body : Body b name) (blank₁ : Blank s₁)
      (blank₂ : Blank s₂) (element : Written n w (.element v)) :
      Written n (quoteMark :: (b ++ quoteMark :: (s₁ ++ colonMark :: (s₂ ++ w))))
        (.member (name, v))
  | lastMember {n : Nat} {w : Text} {p : Text × Value} (member : Written n w (.member p)) :
      Written n w (.members [p])
  | moreMembers {n : Nat} {w s ws : Text} {p : Text × Value} {ps : List (Text × Value)}
      (member : Written n w (.member p)) (blank : Blank s) (rest : Written n ws (.members ps)) :
      Written n (w ++ commaMark :: (s ++ ws)) (.members (p :: ps))

/-- A document: a part with white space around it. -/
inductive Document (levels : Nat) : Text → Part → Prop
  | intro {s₁ w s₂ : Text} {part : Part} (blank₁ : Blank s₁) (written : Written levels w part)
      (blank₂ : Blank s₂) : Document levels (s₁ ++ (w ++ s₂)) part

/-! ## 2. Flat documents -/

theorem Member.written {m : Text} {p : Text × Value} (h : Member m p) (n : Nat) :
    Written n m (.member p) := by
  cases h with
  | intro body blank₁ blank₂ value blank₃ =>
    exact .member body blank₁ blank₂ (.element (.scalar value) blank₃)

/-- Flat members are members, after the white space before the first one. -/
theorem Members.written {m : Text} {ps : List (Text × Value)} (h : Members m ps) (n : Nat) :
    ∃ s w, m = s ++ w ∧ Blank s ∧ Written n w (.members ps) := by
  induction h with
  | one blank member => exact ⟨_, _, rfl, blank, .lastMember (member.written n)⟩
  | @more s m ms p ps blank member rest ih =>
    obtain ⟨s', w, rfl, blank', hw⟩ := ih
    exact ⟨s, m ++ commaMark :: (s' ++ w), rfl, blank, .moreMembers (member.written n) blank' hw⟩

/-- **A flat document is a document** of one object with these members, and of one level. -/
theorem FlatObject.document {t : Text} {ps : List (Text × Value)} (h : FlatObject t ps) (n : Nat) :
    Document (n + 1) t (.object ps) := by
  cases h with
  | @empty s₁ s₂ s₃ blank₁ blank₂ blank₃ =>
    have h : Document (n + 1) _ _ := .intro blank₁ (.emptyObject blank₂) blank₃
    rwa [List.cons_append, List.append_assoc, List.singleton_append] at h
  | @members s₁ m s₂ ps blank₁ members blank₂ =>
    obtain ⟨s, w, rfl, blank, hw⟩ := members.written n
    have h := Document.intro blank₁ (.object blank hw) blank₂
    rwa [List.cons_append, List.append_assoc, List.append_assoc, List.singleton_append,
      ← List.append_assoc] at h

/-! ## 3. Obstacles -/

/-- What keeps a text from being read, though it may be written as it should be. -/
inductive Obstacle where
  /-- An integer of too many digits. -/
  | integer (digits : Nat)
  /-- A container for which there is no level left. -/
  | tooDeep (container : Container)

/-- Why reading stops at an obstacle. -/
def Obstacle.stop : Obstacle → Stop
  | .integer digits => .integer (.tooLong digits)
  | .tooDeep container => .tooDeep container

/-- The digits of a number end here, and neither a fraction nor an exponent follows. -/
structure NumberEnds (rest : Text) : Prop where
  digit : ∀ c ∈ rest.head?, c.isAsciiDigit = false
  fraction : ∀ f after, rest = f ++ after → Fraction f → f = []
  exponent : ∀ e after, rest = e ++ after → Exponent e → e = []

/-- What is being read. -/
inductive Stage where
  | value
  | elements
  | members

/-- **A text in which reading comes to an obstacle** on so many levels.  All that stands before it
is written as it should be, and what stands after it does not matter. -/
inductive ComesTo (o : Obstacle) : (levels : Nat) → Text → Stage → Prop
  | integer {n digits : Nat} {minus ds rest : Text} (is_integer : o = .integer digits)
      (sign : Minus minus) (whole : Whole ds) (long : Integer.digitLimit < digits)
      (count : ds.length = digits) (ends : NumberEnds rest) :
      ComesTo o n (minus ++ (ds ++ rest)) .value
  | noListLevel {rest : Text} (is_array : o = .tooDeep .array) :
      ComesTo o 0 (listMark :: rest) .value
  | noObjectLevel {rest : Text} (is_object : o = .tooDeep .object) :
      ComesTo o 0 (openMark :: rest) .value
  | list {n : Nat} {s t : Text} (blank : Blank s) (inside : ComesTo o n t .elements) :
      ComesTo o (n + 1) (listMark :: (s ++ t)) .value
  | object {n : Nat} {s t : Text} (blank : Blank s) (inside : ComesTo o n t .members) :
      ComesTo o (n + 1) (openMark :: (s ++ t)) .value
  | element {n : Nat} {t : Text} (inside : ComesTo o n t .value) : ComesTo o n t .elements
  | laterElement {n : Nat} {w s t : Text} {v : Value} (before : Written n w (.element v))
      (blank : Blank s) (later : ComesTo o n t .elements) :
      ComesTo o n (w ++ commaMark :: (s ++ t)) .elements
  | member {n : Nat} {b name s₁ s₂ t : Text} (body : Body b name) (blank₁ : Blank s₁)
      (blank₂ : Blank s₂) (inside : ComesTo o n t .value) :
      ComesTo o n (quoteMark :: (b ++ quoteMark :: (s₁ ++ colonMark :: (s₂ ++ t)))) .members
  | laterMember {n : Nat} {w s t : Text} {p : Text × Value} (before : Written n w (.member p))
      (blank : Blank s) (later : ComesTo o n t .members) :
      ComesTo o n (w ++ commaMark :: (s ++ t)) .members

/-- **The first thing that keeps a text from being read** on so many levels is an obstacle. -/
inductive StopsAt (o : Obstacle) (levels : Nat) : Text → Prop
  | intro {s t : Text} (blank : Blank s) (value : ComesTo o levels t .value) :
      StopsAt o levels (s ++ t)

/-- The stage at which a part is read. -/
def Part.stage : Part → Stage
  | .value _ | .object _ | .element _ => .value
  | .elements _ => .elements
  | .member _ | .members _ => .members

/-- **A part is written on fewer levels too,** or the levels do not reach.  The induction is on how
the part is written, and the first piece that takes too many levels is where reading stops. -/
theorem Written.onLevels {n : Nat} {w : Text} {part : Part} (h : Written n w part) (levels : Nat) :
    Written levels w part ∨
      ∃ container, ∀ rest, ComesTo (.tooDeep container) levels (w ++ rest) part.stage := by
  induction h generalizing levels with
  | scalar scalar => exact Or.inl (.scalar scalar)
  | emptyList blank =>
    cases levels with
    | zero => exact Or.inr ⟨.array, fun rest => .noListLevel rfl⟩
    | succ k => exact Or.inl (.emptyList blank)
  | list blank elements ih =>
    cases levels with
    | zero => exact Or.inr ⟨.array, fun rest => .noListLevel rfl⟩
    | succ k =>
      refine (ih k).imp (.list blank) fun ⟨container, hdeep⟩ => ⟨container, fun rest => ?_⟩
      have h := ComesTo.list blank (hdeep (listEndMark :: rest))
      simp only [List.cons_append, List.append_assoc, List.nil_append]
      exact h
  | emptyObject blank =>
    cases levels with
    | zero => exact Or.inr ⟨.object, fun rest => .noObjectLevel rfl⟩
    | succ k => exact Or.inl (.emptyObject blank)
  | object blank members ih =>
    cases levels with
    | zero => exact Or.inr ⟨.object, fun rest => .noObjectLevel rfl⟩
    | succ k =>
      refine (ih k).imp (.object blank) fun ⟨container, hdeep⟩ => ⟨container, fun rest => ?_⟩
      have h := ComesTo.object blank (hdeep (closeMark :: rest))
      simp only [List.cons_append, List.append_assoc, List.nil_append]
      exact h
  | ofObject object ih => exact (ih levels).imp_left .ofObject
  | @element n w s v value blank ih =>
    refine (ih levels).imp (.element · blank) fun ⟨container, hdeep⟩ => ⟨container, fun rest => ?_⟩
    rw [List.append_assoc]
    exact hdeep (s ++ rest)
  | lastElement element ih =>
    exact (ih levels).imp .lastElement fun ⟨container, hdeep⟩ =>
      ⟨container, fun rest => .element (hdeep rest)⟩
  | @moreElements n w s ws v vs element blank others ih ihs =>
    rcases ih levels with hfirst | ⟨container, hdeep⟩
    · refine (ihs levels).imp (.moreElements hfirst blank) fun ⟨container, hdeep⟩ =>
        ⟨container, fun rest => ?_⟩
      have h := ComesTo.laterElement hfirst blank (hdeep rest)
      simp only [List.cons_append, List.append_assoc]
      exact h
    · refine Or.inr ⟨container, fun rest => .element ?_⟩
      rw [List.append_assoc]
      exact hdeep _
  | @member n b name s₁ s₂ w v body blank₁ blank₂ element ih =>
    refine (ih levels).imp (.member body blank₁ blank₂) fun ⟨container, hdeep⟩ =>
      ⟨container, fun rest => ?_⟩
    have h := ComesTo.member body blank₁ blank₂ (hdeep rest)
    simp only [List.cons_append, List.append_assoc]
    exact h
  | lastMember member ih => exact (ih levels).imp_left .lastMember
  | @moreMembers n w s ws p ps member blank others ih ihs =>
    rcases ih levels with hfirst | ⟨container, hdeep⟩
    · refine (ihs levels).imp (.moreMembers hfirst blank) fun ⟨container, hdeep⟩ =>
        ⟨container, fun rest => ?_⟩
      have h := ComesTo.laterMember hfirst blank (hdeep rest)
      simp only [List.cons_append, List.append_assoc]
      exact h
    · refine Or.inr ⟨container, fun rest => ?_⟩
      rw [List.append_assoc]
      exact hdeep _

/-- **A document is one on fewer levels too,** or reading stops where it is nested too deep. -/
theorem Document.onLevels {n : Nat} {t : Text} {part : Part} (h : Document n t part)
    (hstage : part.stage = .value) (levels : Nat) :
    Document levels t part ∨ ∃ container, StopsAt (.tooDeep container) levels t := by
  cases h with
  | intro blank₁ written blank₂ =>
    refine (written.onLevels levels).imp (.intro blank₁ · blank₂) fun ⟨container, hdeep⟩ =>
      ⟨container, .intro blank₁ ?_⟩
    rw [← hstage]
    exact hdeep _

end CloudAccess.Json
