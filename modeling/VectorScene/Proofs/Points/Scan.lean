import Mathlib.Algebra.Group.Nat.Even
import VectorScene.Proofs.Points.Value
import VectorScene.Proofs.Run

/-!
# Texts that list points

A text is scanned from left to right for coordinates, each as long as possible.  It lists
points when blanks surround the coordinates, blanks with at most one comma separate them,
and each point has both of its own.
-/

namespace VectorScene.Points

open VectorScene.Text

/-! ## Scanning -/

/-- A text, and the coordinates found in it from left to right with the gaps around
them. -/
inductive Scans : List Char → Cut → Prop where
  | done : Scans [] ⟨[], []⟩
  | skip {c : Char} {rest : List Char} {found : Cut}
      (none : ∀ token, CoordinateForm token → ¬token <+: c :: rest) (later : Scans rest found) :
      Scans (c :: rest) ⟨c :: found.lead, found.parts⟩
  | take {token rest : List Char} {found : Cut} (longest : IsLongest (token ++ rest) token)
      (later : Scans rest found) : Scans (token ++ rest) ⟨[], (token, found.lead) :: found.parts⟩

/-- Cutting a text is scanning it. -/
theorem scans_iff {text : List Char} {found : Cut} : Scans text found ↔ found = cut text := by
  constructor
  · intro scanned
    induction scanned with
    | done => rw [cut]
    | @skip c rest _ none later ih =>
        rw [cut]
        split
        next token after some =>
          rw [splitCoordinate?_eq_none.2 none] at some
          cases some
        next => rw [ih]
    | take longest later ih =>
        rw [cut_token (splitCoordinate?_eq_some.2 ⟨rfl, longest⟩), ih]
  · rintro rfl
    fun_induction cut text with
    | case1 => exact .done
    | case2 c rest token after found following ih =>
        obtain ⟨whole, longest⟩ := splitCoordinate?_eq_some.1 found
        rw [← whole] at longest ⊢
        exact .take longest ih
    | case3 c rest found following ih => exact .skip (splitCoordinate?_eq_none.1 found) ih

/-! ## Separators -/

/-- Blanks with at most one comma. -/
inductive Separates : List Char → Prop where
  | blank {gap : List Char} (blank : allBlank gap = true) : Separates gap
  | comma {before after : List Char} (left : allBlank before = true)
      (right : allBlank after = true) : Separates (before ++ ',' :: after)

theorem isSeparator_iff {gap : List Char} : isSeparator gap = true ↔ Separates gap := by
  have comma : isBlank ',' = false := by decide
  constructor
  · intro separator
    have front : allBlank (gap.takeWhile isBlank) = true :=
      List.all_eq_true.2 fun _ member => List.mem_takeWhile_imp member
    have whole : gap.takeWhile isBlank ++ gap.dropWhile isBlank = gap :=
      List.takeWhile_append_dropWhile
    rw [isSeparator] at separator
    split at separator
    next after dropped =>
      rw [dropped] at whole
      rw [← whole]
      exact .comma front separator
    next =>
      rw [List.isEmpty_iff.1 separator, List.append_nil] at whole
      rw [← whole]
      exact .blank front
  · rintro (blank | ⟨left, right⟩)
    · rw [isSeparator, dropWhile_of_all (List.all_eq_true.1 blank)]
      rfl
    · rw [isSeparator, List.dropWhile_append_of_pos (List.all_eq_true.1 left),
        List.dropWhile_cons_of_neg (by rw [comma]; decide)]
      exact right

/-- No part of a number stands in a separator. -/
theorem Separates.inert {gap : List Char} (separates : Separates gap) :
    ∀ c ∈ gap, Number.isNumeral c = false := by
  have inert {blanks : List Char} (blank : allBlank blanks = true) :
      ∀ c ∈ blanks, Number.isNumeral c = false := by
    intro c member
    rw [← Bool.not_eq_true]
    intro numeral
    have filled := Number.isBlank_of_isNumeral numeral
    rw [List.all_eq_true.1 blank c member] at filled
    cases filled
  cases separates with
  | blank blank => exact inert blank
  | comma left right =>
      have comma : Number.isNumeral ',' = false := by decide
      exact List.forall_mem_append.2
        ⟨inert left, List.forall_mem_cons.2 ⟨comma, inert right⟩⟩

/-! ## Lists of points -/

/-- Blanks around the coordinates, separators between them, and two for each point. -/
structure Cut.Lists (found : Cut) : Prop where
  lead : allBlank found.lead = true
  between : ∀ gap ∈ found.gaps.dropLast, Separates gap
  last : ∀ gap ∈ found.gaps.getLast?, allBlank gap = true
  even : Even found.tokens.length

theorem Cut.wellFormed_iff {found : Cut} : found.wellFormed = true ↔ found.Lists := by
  have last : allBlank (found.gaps.getLastD []) = true ↔
      ∀ gap ∈ found.gaps.getLast?, allBlank gap = true := by
    rw [List.getLastD_eq_getLast?]
    cases found.gaps.getLast? with
    | none => simp
    | some gap => simp
  have between : found.gaps.dropLast.all isSeparator = true ↔
      ∀ gap ∈ found.gaps.dropLast, Separates gap := by
    rw [List.all_eq_true]
    exact forall₂_congr fun _ _ => isSeparator_iff
  have even : found.parts.length % 2 = 0 ↔ Even found.tokens.length := by
    rw [tokens, List.length_map, Nat.even_iff]
  rw [wellFormed, Bool.and_eq_true, Bool.and_eq_true, Bool.and_eq_true, decide_eq_true_iff, last,
    between, even]
  exact ⟨fun ⟨⟨⟨lead, last⟩, between⟩, even⟩ => ⟨lead, between, last, even⟩,
    fun lists => ⟨⟨⟨lists.lead, lists.last⟩, lists.between⟩, lists.even⟩⟩

/-- The points whose coordinates are given, two for each. -/
inductive Values : List (List Char) → List (Number × Number) → Prop where
  | nil : Values [] []
  | cons {x y : List Char} {tokens : List (List Char)} {numberX numberY : Number}
      {vertices : List (Number × Number)} (first : value x = .ok numberX)
      (second : value y = .ok numberY) (others : Values tokens vertices) :
      Values (x :: y :: tokens) ((numberX, numberY) :: vertices)

theorem Values.length_eq {tokens : List (List Char)} {vertices : List (Number × Number)}
    (values : Values tokens vertices) : 2 * vertices.length = tokens.length := by
  induction values with
  | nil => rfl
  | cons _ _ _ ih =>
      rw [List.length_cons, List.length_cons, List.length_cons]
      omega

/-- Induction on a list of even length takes two members at a time. -/
@[elab_as_elim]
theorem even_induction {α : Type} {motive : (values : List α) → Even values.length → Prop}
    (nil : ∀ even, motive [] even)
    (pair : ∀ x y rest evenRest even, motive rest evenRest → motive (x :: y :: rest) even) :
    ∀ (values : List α) (even : Even values.length), motive values even
  | [], even => nil even
  | [_], odd => absurd odd Nat.not_even_one
  | x :: y :: rest, even => by
      have evenRest : Even rest.length := by simpa [Nat.even_add_one] using even
      exact pair x y rest evenRest even (even_induction nil pair rest evenRest)

/-- Reading the coordinates pair by pair gives their values. -/
theorem values_iff {tokens : List (List Char)} (even : Even tokens.length)
    {vertices : List (Number × Number)} :
    Values tokens vertices ↔ ((pairs tokens).mapM fun (x, y) => do
      let numberX ← value x
      let numberY ← value y
      return (numberX, numberY)) = .ok vertices := by
  rw [mapM_eq_ok]
  induction tokens, even using even_induction generalizing vertices with
  | nil _ =>
      rw [pairs, List.forall₂_nil_left_iff]
      · constructor
        · rintro ⟨⟩
          rfl
        · rintro rfl
          exact .nil
      · exact nofun
  | pair x y rest _ _ ih =>
      rw [pairs, List.forall₂_cons_left_iff]
      constructor
      · rintro (_ | ⟨first, second, others⟩)
        refine ⟨_, _, ?_, ih.1 others, rfl⟩
        simp only [first, second]
        rfl
      · rintro ⟨vertex, others, read, tail, rfl⟩
        obtain ⟨numberX, readX, read⟩ := bind_eq_ok.1 read
        obtain ⟨numberY, readY, same⟩ := bind_eq_ok.1 read
        cases pure_eq_ok.1 same
        exact .cons readX readY (ih.2 tail)

theorem exists_values {tokens : List (List Char)} (even : Even tokens.length)
    (forms : ∀ token ∈ tokens, CoordinateForm token) : ∃ vertices, Values tokens vertices := by
  induction tokens, even using even_induction with
  | nil _ => exact ⟨[], .nil⟩
  | pair x y rest _ _ ih =>
      rw [List.forall_mem_cons, List.forall_mem_cons] at forms
      obtain ⟨formX, formY, forms⟩ := forms
      obtain ⟨numberX, readX⟩ := formX.exists_value
      obtain ⟨numberY, readY⟩ := formY.exists_value
      obtain ⟨others, read⟩ := ih forms
      exact ⟨_, .cons readX readY read⟩

/-- Whatever a scan finds has the form of a coordinate. -/
theorem Scans.form {text : List Char} {found : Cut} (scanned : Scans text found) :
    ∀ token ∈ found.tokens, CoordinateForm token := by
  induction scanned with
  | done => exact List.forall_mem_nil _
  | skip _ _ ih => exact ih
  | take longest _ ih => exact List.forall_mem_cons.2 ⟨longest.form, ih⟩

/-- A list of points is read as the values of its coordinates. -/
theorem parse_eq_ok {text : List Char} (lists : (cut text).Lists)
    {vertices : List (Number × Number)} :
    parse text = .ok vertices ↔ Values (cut text).tokens vertices := by
  rw [parse, values_iff lists.even]

/-! ## Assembled lists -/

/-- Coordinates that something separates. -/
structure Cut.Apart (found : Cut) : Prop where
  form : ∀ token ∈ found.tokens, CoordinateForm token
  between : ∀ gap ∈ found.gaps.dropLast, gap ≠ []

theorem cut_inert_append {gap : List Char} (inert : ∀ c ∈ gap, Number.isNumeral c = false)
    (rest : List Char) : cut (gap ++ rest) = ⟨gap ++ (cut rest).lead, (cut rest).parts⟩ := by
  induction gap with
  | nil => rfl
  | cons c gap ih =>
      rw [List.forall_mem_cons] at inert
      rw [List.cons_append, cut_inert inert.1, ih inert.2, List.cons_append]

/-- Coordinates with something inert between them are found again. -/
theorem cut_parts {parts : List (List Char × List Char)}
    (form : ∀ part ∈ parts, CoordinateForm part.1)
    (inert : ∀ part ∈ parts, ∀ c ∈ part.2, Number.isNumeral c = false)
    (between : ∀ gap ∈ (parts.map Prod.snd).dropLast, gap ≠ []) :
    cut (parts.flatMap fun part => part.1 ++ part.2) = ⟨[], parts⟩ := by
  induction parts with
  | nil => rw [List.flatMap_nil, cut]
  | cons part rest ih =>
      obtain ⟨token, gap⟩ := part
      rw [List.forall_mem_cons] at form inert
      have stops : Stops (gap ++ rest.flatMap fun part => part.1 ++ part.2) := by
        cases gap with
        | cons c gap => exact stops_cons (inert.1 c List.mem_cons_self) _
        | nil =>
            cases rest with
            | nil => exact stops_nil
            | cons next rest => exact absurd rfl (between [] List.mem_cons_self)
      have found : cut (rest.flatMap fun part => part.1 ++ part.2) = ⟨[], rest⟩ := by
        refine ih form.2 inert.2 fun other member => between other ?_
        cases rest with
        | nil => cases member
        | cons next rest => exact List.mem_cons_of_mem gap member
      rw [List.flatMap_cons, List.append_assoc, cut_coordinate (isCoordinate_iff.2 form.1) stops,
        cut_inert_append inert.1, found, List.append_nil]

theorem Cut.Lists.separates {found : Cut} (lists : found.Lists) :
    ∀ part ∈ found.parts, Separates part.2 := by
  intro part member
  have inside : part.2 ∈ found.gaps := List.mem_map_of_mem member
  cases last : found.gaps.getLast? with
  | none =>
      rw [List.getLast?_eq_none_iff.1 last] at inside
      cases inside
  | some gap =>
      rw [← List.dropLast_append_getLast? gap last] at inside
      rcases List.mem_append.1 inside with front | same
      · exact lists.between part.2 front
      · rw [List.mem_singleton.1 same]
        exact .blank (lists.last gap last)

/-- A text that is assembled from coordinates and separators is scanned as it was
assembled. -/
theorem Cut.Apart.scans {found : Cut} (apart : found.Apart) (lists : found.Lists) :
    Scans found.join found := by
  have lead := (Separates.blank lists.lead).inert
  have form : ∀ part ∈ found.parts, CoordinateForm part.1 :=
    fun part member => apart.form part.1 (List.mem_map_of_mem member)
  have inert : ∀ part ∈ found.parts, ∀ c ∈ part.2, Number.isNumeral c = false :=
    fun part member => (lists.separates part member).inert
  rw [scans_iff, join, cut_inert_append lead, cut_parts form inert apart.between, List.append_nil]

end VectorScene.Points
