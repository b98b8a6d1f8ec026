import Mathlib.Data.List.Basic

set_option autoImplicit false

/- Trees drawn as an outline, one label a line behind a branch mark, and that the drawing
determines the tree. -/
namespace Outline

inductive Tree (L : Type)
  | node (label : L) (children : List (Tree L))

/-- What stands before a label, and before the lines below it; `true` is for the last child. -/
structure Marks (A : Type) where
  branch : Bool → List A
  fill : Bool → List A
  stop : A
  branch_apart : ∀ s t, branch false ++ s ≠ branch true ++ t
  fill_apart : ∀ last s t, fill false ++ s ≠ branch last ++ t

section Draw

variable {A L : Type} (m : Marks A) (text : L → List A)

mutual

def draw : Tree L → List A → Bool → List A
  | .node label children, front, last =>
    front ++ m.branch last ++ text label ++ m.stop :: drawAll children (front ++ m.fill last)

def drawAll : List (Tree L) → List A → List A
  | [], _ => []
  | child :: rest, front => draw child front rest.isEmpty ++ drawAll rest front

end

end Draw

section All

variable {L : Type} (P : L → Prop)

mutual

def Tree.All : Tree L → Prop
  | .node label children => P label ∧ AllIn children

def AllIn : List (Tree L) → Prop
  | [] => True
  | child :: rest => child.All ∧ AllIn rest

end

theorem allIn_iff {trees : List (Tree L)} : AllIn P trees ↔ ∀ t ∈ trees, t.All P := by
  induction trees with
  | nil => simp [AllIn]
  | cons t rest ih => simp [AllIn, ih]

end All

section Injective

variable {A L : Type} {m : Marks A} {text : L → List A}

/-- A line ends at the first separator. -/
theorem append_stop_inj {stop : A} {a b : List A} (ha : stop ∉ a) (hb : stop ∉ b) {s t : List A}
    (same : a ++ stop :: s = b ++ stop :: t) : a = b ∧ s = t := by
  induction a generalizing b with
  | nil =>
    cases b with
    | nil => exact ⟨rfl, (List.cons.inj same).2⟩
    | cons c b => exact absurd (List.mem_cons.mpr (.inl (List.cons.inj same).1)) hb
  | cons d a ih =>
    cases b with
    | nil => exact absurd (List.mem_cons.mpr (.inl (List.cons.inj same).1.symm)) ha
    | cons c b =>
      obtain ⟨head, tail⟩ := List.cons.inj same
      obtain ⟨front, back⟩ := ih (fun h => ha (List.mem_cons_of_mem d h))
        (fun h => hb (List.mem_cons_of_mem c h)) tail
      exact ⟨by rw [head, front], back⟩

theorem branch_inj {la lb : Bool} {s t : List A} (same : m.branch la ++ s = m.branch lb ++ t) :
    la = lb ∧ s = t := by
  cases la with
  | false =>
    cases lb with
    | false => exact ⟨rfl, List.append_cancel_left same⟩
    | true => exact absurd same (m.branch_apart s t)
  | true =>
    cases lb with
    | false => exact absurd same.symm (m.branch_apart t s)
    | true => exact ⟨rfl, List.append_cancel_left same⟩

variable (m text) in
theorem draw_eq (t : Tree L) (front : List A) (last : Bool) :
    ∃ label children, t = .node label children ∧ draw m text t front last =
      front ++ m.branch last ++ text label ++
        m.stop :: drawAll m text children (front ++ m.fill last) := by
  obtain ⟨label, children⟩ := t
  exact ⟨label, children, rfl, by rw [draw]⟩

/-- What follows a child on the same level does not start as one of its own children does. -/
theorem later_apart {rest : List (Tree L)} {front after : List A} (outside : ¬ front <+: after) :
    ¬ front ++ m.fill rest.isEmpty <+: drawAll m text rest front ++ after := by
  intro inside
  cases rest with
  | nil => exact outside ((List.prefix_append _ _).trans inside)
  | cons child rest =>
    obtain ⟨label, children, rfl, drawn⟩ := draw_eq m text child front rest.isEmpty
    obtain ⟨t, same⟩ := inside
    rw [drawAll, drawn] at same
    simp only [List.append_assoc, List.isEmpty_cons] at same
    exact m.fill_apart _ _ _ (List.append_cancel_left same)

mutual

theorem draw_inj (injective : Function.Injective text) {a b : Tree L}
    (ha : a.All fun l => m.stop ∉ text l) (hb : b.All fun l => m.stop ∉ text l)
    {front : List A} {la lb : Bool} {s t : List A} (hs : ¬ front ++ m.fill la <+: s)
    (ht : ¬ front ++ m.fill lb <+: t)
    (same : draw m text a front la ++ s = draw m text b front lb ++ t) :
    a = b ∧ la = lb ∧ s = t := by
  match a, b with
  | .node label children, .node label' children' =>
    rw [draw, draw] at same
    simp only [List.append_assoc, List.cons_append] at same
    obtain ⟨rfl, line⟩ := branch_inj (List.append_cancel_left same)
    rw [Tree.All] at ha hb
    obtain ⟨labels, below⟩ := append_stop_inj ha.1 hb.1 line
    obtain ⟨rfl, after⟩ := drawAll_inj injective ha.2 hb.2 hs ht below
    exact ⟨by rw [injective labels], rfl, after⟩

theorem drawAll_inj (injective : Function.Injective text) {as bs : List (Tree L)}
    (ha : AllIn (fun l => m.stop ∉ text l) as) (hb : AllIn (fun l => m.stop ∉ text l) bs)
    {front s t : List A} (hs : ¬ front <+: s) (ht : ¬ front <+: t)
    (same : drawAll m text as front ++ s = drawAll m text bs front ++ t) : as = bs ∧ s = t := by
  match as, bs with
  | [], [] => exact ⟨rfl, by simpa [drawAll] using same⟩
  | [], b :: bs =>
    obtain ⟨label, children, rfl, drawn⟩ := draw_eq m text b front bs.isEmpty
    rw [drawAll, drawAll, drawn] at same
    simp only [List.append_assoc, List.nil_append] at same
    exact absurd ⟨_, same.symm⟩ hs
  | a :: as, [] =>
    obtain ⟨label, children, rfl, drawn⟩ := draw_eq m text a front as.isEmpty
    rw [drawAll, drawAll, drawn] at same
    simp only [List.append_assoc, List.nil_append] at same
    exact absurd ⟨_, same⟩ ht
  | a :: as, b :: bs =>
    rw [drawAll, drawAll, List.append_assoc, List.append_assoc] at same
    rw [AllIn] at ha hb
    obtain ⟨rfl, -, later⟩ := draw_inj injective ha.1 hb.1 (later_apart hs) (later_apart ht) same
    obtain ⟨rfl, after⟩ := drawAll_inj injective ha.2 hb.2 hs ht later
    exact ⟨rfl, after⟩

end

end Injective

end Outline
