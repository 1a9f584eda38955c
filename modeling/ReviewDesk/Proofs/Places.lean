import Mathlib
import ReviewDesk.Inspection.Complexity

/-!
# Places in a syntax tree

A place is the way from the root to a node. Equal nodes at two places are two nodes, so what is
counted in a tree is counted by place. Main statement: the walk level by level comes to every place
once, and never from a deeper place to a higher one (`walkAt_perm`, `walkAt_sorted`).
-/
namespace ReviewDesk.Grammar.Tree

/-- Trees are built from the parts up. -/
@[induction_eliminator]
theorem induct {P : Tree → Prop}
    (node : ∀ form line parts, (∀ u ∈ parts, P u) → P (.node form line parts)) (t : Tree) : P t :=
  @Tree.rec P (fun parts => ∀ u ∈ parts, P u) node (by simp)
    (fun _ _ head tail => List.forall_mem_cons.mpr ⟨head, tail⟩) t

/-- Which part to take at each level, from the root on. -/
abbrev Place := List Nat

/-- The node at a place. -/
def at? (t : Tree) : Place → Option Tree
  | [] => some t
  | i :: p => t.parts[i]?.bind fun u => u.at? p

@[simp] theorem at?_nil (t : Tree) : t.at? [] = some t := rfl

@[simp] theorem at?_cons (t : Tree) (i : Nat) (p : Place) :
    t.at? (i :: p) = t.parts[i]?.bind fun u => u.at? p := rfl

theorem at?_append (t : Tree) (p q : Place) : t.at? (p ++ q) = (t.at? p).bind (·.at? q) := by
  induction p generalizing t with
  | nil => rfl
  | cons i p ih =>
    rw [List.cons_append, at?_cons, at?_cons]
    cases t.parts[i]? with
    | none => rfl
    | some u => exact ih u

/-! ## All nodes, each before its parts -/

/-- A node of a part, as one of the whole. -/
def under (i : Nat) (x : Place × Tree) : Place × Tree := (i :: x.1, x.2)

mutual

/-- The nodes of a tree with their places, each before its parts. -/
def nodes : Tree → List (Place × Tree)
  | .node form line parts => ([], .node form line parts) :: nodesFrom 0 parts

/-- The nodes of parts, of which the first has the given number. -/
def nodesFrom : Nat → List Tree → List (Place × Tree)
  | _, [] => []
  | i, t :: ts => (nodes t).map (under i) ++ nodesFrom (i + 1) ts

end

theorem nodesFrom_eq (i : Nat) (parts : List Tree) :
    nodesFrom i parts = (parts.zipIdx i).flatMap fun u => u.1.nodes.map (under u.2) := by
  induction parts generalizing i with
  | nil => rfl
  | cons t ts ih => rw [nodesFrom, ih, List.zipIdx_cons, List.flatMap_cons]

theorem nodes_eq (t : Tree) :
    t.nodes = ([], t) :: t.parts.zipIdx.flatMap fun u => u.1.nodes.map (under u.2) := by
  cases t
  rw [nodes, nodesFrom_eq]
  rfl

theorem mem_zipIdx_parts {t : Tree} {u : Tree × Nat} (h : u ∈ t.parts.zipIdx) : u.1 ∈ t.parts :=
  List.mem_of_getElem? (List.mem_zipIdx_iff_getElem?.mp h)

/-- What does not look at the numbers of numbered parts. -/
theorem map_zipIdx {α : Type} {ts : List Tree} {f : Tree × Nat → α} {g : Tree → α}
    (h : ∀ i u, ts[i]? = some u → f (u, i) = g u) : ts.zipIdx.map f = ts.map g := by
  conv_rhs => rw [← List.zipIdx_map_fst 0 ts, List.map_map]
  exact List.map_congr_left fun u hu => h u.2 u.1 (List.mem_zipIdx_iff_getElem?.mp hu)

/-- The nodes are those that stand at some place. -/
theorem mem_nodes {t : Tree} {x : Place × Tree} : x ∈ t.nodes ↔ t.at? x.1 = some x.2 := by
  induction t generalizing x with
  | node form line parts ih =>
    obtain ⟨p, n⟩ := x
    rw [nodes_eq, List.mem_cons, List.mem_flatMap]
    cases p with
    | nil => simp [under, eq_comm]
    | cons i p =>
      simp only [Prod.mk.injEq, reduceCtorEq, false_and, false_or, List.mem_map, at?_cons,
        Option.bind_eq_some_iff]
      constructor
      · rintro ⟨u, hu, y, hy, hx⟩
        obtain ⟨⟨rfl, rfl⟩, rfl⟩ : (u.2 = i ∧ y.1 = p) ∧ y.2 = n := by simpa [under] using hx
        exact ⟨u.1, List.mem_zipIdx_iff_getElem?.mp hu, (ih u.1 (mem_zipIdx_parts hu)).mp hy⟩
      · rintro ⟨u, hu, hn⟩
        exact ⟨(u, i), List.mem_zipIdx_iff_getElem?.mpr hu, (p, n),
          (ih u (List.mem_of_getElem? hu)).mpr hn, rfl⟩

/-- No place is listed twice. -/
theorem nodup_nodes (t : Tree) : (t.nodes.map (·.1)).Nodup := by
  induction t with
  | node form line parts ih =>
    rw [nodes_eq, List.map_cons, List.map_flatMap, List.nodup_cons, List.nodup_flatMap]
    refine ⟨by simp [under], ?_, ?_⟩
    · intro u hu
      have hmap : (u.1.nodes.map (under u.2)).map (·.1) = (u.1.nodes.map (·.1)).map (u.2 :: ·) := by
        simp [under, Function.comp_def]
      rw [hmap]
      exact (ih u.1 (mem_zipIdx_parts hu)).map List.cons_injective
    · have hnumbers : (node form line parts).parts.zipIdx.Pairwise fun u v => u.2 ≠ v.2 := by
        rw [← List.pairwise_map (f := Prod.snd) (R := (· ≠ ·)), List.zipIdx_map_snd]
        exact List.nodup_range'
      refine hnumbers.imp fun {u v} huv => ?_
      intro p hu hv
      obtain ⟨q, -, rfl⟩ : ∃ q, q ∈ u.1.nodes ∧ u.2 :: q.1 = p := by simpa [under] using hu
      obtain ⟨r, -, hr⟩ : ∃ r, r ∈ v.1.nodes ∧ v.2 :: r.1 = u.2 :: q.1 := by
        simpa [under] using hv
      exact huv (List.cons.inj hr).1.symm

/-- What is counted in a tree is counted at its root and in its parts. -/
theorem sum_nodes (f : Place × Tree → Nat) (t : Tree) :
    (t.nodes.map f).sum = f ([], t) +
      (t.parts.zipIdx.map fun u => (u.1.nodes.map fun y => f (under u.2 y)).sum).sum := by
  rw [nodes_eq, List.map_cons, List.sum_cons, List.map_flatMap, List.flatMap_def, List.sum_flatten]
  simp only [List.map_map, Function.comp_def]

/-! ## All nodes, level by level -/

/-- The parts of a node with their places. -/
def partsAt (x : Place × Tree) : List (Place × Tree) :=
  x.2.parts.zipIdx.map fun u => (x.1 ++ [u.2], u.1)

/-- The nodes from a node down, with their places. -/
def nodesAt (x : Place × Tree) : List (Place × Tree) :=
  x.2.nodes.map fun y => (x.1 ++ y.1, y.2)

theorem nodesAt_eq (x : Place × Tree) : nodesAt x = x :: (partsAt x).flatMap nodesAt := by
  rw [nodesAt, nodes_eq, List.map_cons, List.append_nil, List.map_flatMap, partsAt,
    List.flatMap_map]
  congr 1
  refine List.flatMap_congr fun u _ => ?_
  simp [nodesAt, under, Function.comp_def]

end ReviewDesk.Grammar.Tree

namespace ReviewDesk.Inspection

open Grammar Tree
open scoped List

theorem height_le_heightOf {u : Tree} {ts : List Tree} (h : u ∈ ts) : height u ≤ heightOf ts := by
  induction ts with
  | nil => cases h
  | cons t ts ih =>
    rw [heightOf]
    obtain rfl | h := List.mem_cons.mp h
    · exact Nat.le_max_left _ _
    · exact (ih h).trans (Nat.le_max_right _ _)

theorem height_lt {t u : Tree} (h : u ∈ t.parts) : height u < height t := by
  cases t
  exact Nat.lt_succ_of_le (height_le_heightOf h)

/-- `levels`, with the places of the nodes. -/
def levelsAt : Nat → List (Place × Tree) → List (Place × Tree)
  | 0, _ => []
  | n + 1, xs => xs ++ levelsAt n (xs.flatMap partsAt)

/-- `walk`, with the places of the nodes. -/
def walkAt (t : Tree) : List (Place × Tree) :=
  levelsAt (height t) [([], t)]

theorem map_partsAt (x : Place × Tree) : (partsAt x).map (·.2) = x.2.parts := by
  rw [partsAt, List.map_map]
  exact List.zipIdx_map_fst 0 x.2.parts

theorem map_levelsAt (n : Nat) (xs : List (Place × Tree)) :
    (levelsAt n xs).map (·.2) = levels n (xs.map (·.2)) := by
  induction n generalizing xs with
  | zero => rfl
  | succ n ih =>
    rw [levelsAt, levels, List.map_append, ih, List.map_flatMap, List.flatMap_map]
    simp only [map_partsAt]

theorem map_walkAt (t : Tree) : (walkAt t).map (·.2) = walk t :=
  map_levelsAt _ _

/-- With room for all levels, level by level is another order of the same nodes. -/
theorem levelsAt_perm (n : Nat) (xs : List (Place × Tree)) (h : ∀ x ∈ xs, height x.2 ≤ n) :
    (levelsAt n xs).Perm (xs.flatMap nodesAt) := by
  induction n generalizing xs with
  | zero =>
    cases xs with
    | nil => rfl
    | cons x xs =>
      obtain ⟨p, t⟩ := x
      cases t
      exact absurd (h _ List.mem_cons_self) (Nat.not_succ_le_zero _)
  | succ n ih =>
    -- Each level uses up one of `n`, and the next one is lower by as much.
    have hparts : ∀ y ∈ xs.flatMap partsAt, height y.2 ≤ n := by
      intro y hy
      obtain ⟨x, hx, hy⟩ := List.mem_flatMap.mp hy
      have hpart : y.2 ∈ x.2.parts := map_partsAt x ▸ List.mem_map_of_mem hy
      exact Nat.le_of_lt_succ ((height_lt hpart).trans_le (h x hx))
    calc levelsAt (n + 1) xs
      _ = xs ++ levelsAt n (xs.flatMap partsAt) := rfl
      _ ~ xs ++ (xs.flatMap partsAt).flatMap nodesAt := (ih _ hparts).append_left xs
      _ = xs.flatMap (fun x => [x]) ++ xs.flatMap (fun x => (partsAt x).flatMap nodesAt) := by
        rw [List.flatMap_assoc, List.flatMap_singleton']
      _ ~ xs.flatMap (fun x => [x] ++ (partsAt x).flatMap nodesAt) :=
        List.flatMap_append_perm xs _ _
      _ = xs.flatMap nodesAt := List.flatMap_congr fun x _ => (nodesAt_eq x).symm

theorem walkAt_perm (t : Tree) : (walkAt t).Perm t.nodes := by
  have h := levelsAt_perm (height t) [([], t)] (by simp)
  simpa [walkAt, nodesAt] using h

/-- From level to level the places get longer. -/
theorem levelsAt_sorted (n k : Nat) (xs : List (Place × Tree)) (h : ∀ x ∈ xs, x.1.length = k) :
    (levelsAt n xs).Pairwise (fun x y => x.1.length ≤ y.1.length) ∧
      ∀ x ∈ levelsAt n xs, k ≤ x.1.length := by
  induction n generalizing k xs with
  | zero => exact ⟨.nil, by simp [levelsAt]⟩
  | succ n ih =>
    have hparts : ∀ y ∈ xs.flatMap partsAt, y.1.length = k + 1 := by
      intro y hy
      obtain ⟨x, hx, hy⟩ := List.mem_flatMap.mp hy
      obtain ⟨u, -, rfl⟩ := List.mem_map.mp hy
      simp [h x hx]
    obtain ⟨hsorted, hdeeper⟩ := ih (k + 1) _ hparts
    constructor
    · rw [levelsAt, List.pairwise_append]
      refine ⟨List.pairwise_of_forall_mem_list fun x hx y hy => ?_, hsorted, fun x hx y hy => ?_⟩
      · rw [h x hx, h y hy]
      · rw [h x hx]
        exact (Nat.le_succ k).trans (hdeeper y hy)
    · intro x hx
      obtain hx | hx := List.mem_append.mp hx
      · exact (h x hx).ge
      · exact (Nat.le_succ k).trans (hdeeper x hx)

theorem walkAt_sorted (t : Tree) :
    (walkAt t).Pairwise fun x y => x.1.length ≤ y.1.length :=
  (levelsAt_sorted _ 0 _ (by simp)).1

theorem nodup_walkAt (t : Tree) : ((walkAt t).map (·.1)).Nodup :=
  ((walkAt_perm t).map _).nodup_iff.mpr (nodup_nodes t)

theorem mem_walkAt {t : Tree} {x : Place × Tree} : x ∈ walkAt t ↔ t.at? x.1 = some x.2 :=
  (walkAt_perm t).mem_iff.trans mem_nodes

end ReviewDesk.Inspection
