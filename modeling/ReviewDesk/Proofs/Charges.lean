import ReviewDesk.Proofs.Places

/-!
# Decisions and their owners

The owner of a node is the nearest definition around it. The functions of a module share out its
decisions by owner: none is counted twice, and only those that belong to a class, a lambda or no
definition at all are left over. What stands inside a nested definition therefore says nothing about
the functions around it. Main statement: `decisions_shared_out`.
-/
namespace ReviewDesk.Inspection

open Grammar Tree

/-! ## Owners -/

/-- The places above a place, the nearest first. -/
def above : Place → List Place
  | [] => []
  | i :: p => (above p).map (i :: ·) ++ [[]]

/-- They are the proper beginnings of the place. -/
theorem mem_above {p q : Place} : q ∈ above p ↔ q <+: p ∧ q ≠ p := by
  induction p generalizing q with
  | nil => simp [above]
  | cons i p ih =>
    cases q with
    | nil => simp [above]
    | cons j q =>
      simp only [above, List.mem_append, List.mem_map, ih, List.cons_prefix_cons, List.cons.injEq,
        ne_eq, List.mem_singleton, reduceCtorEq, or_false]
      grind

/-- The place of the nearest definition around a place. -/
def owner? (t : Tree) (p : Place) : Option Place :=
  (above p).find? fun q => (t.at? q).any isDefinition

@[simp] theorem owner?_nil (t : Tree) : owner? t [] = none := rfl

/-- Further down, the nearest definition is in the part, unless the part has none. -/
theorem owner?_cons {t u : Tree} {i : Nat} (h : t.parts[i]? = some u) (p : Place) :
    owner? t (i :: p) =
      ((owner? u p).map (i :: ·)).or (if isDefinition t then some [] else none) := by
  unfold owner?
  have hin : (fun q => (t.at? q).any isDefinition) ∘ (i :: ·) =
      fun q => (u.at? q).any isDefinition := by
    funext q
    simp [h]
  rw [above, List.find?_append, List.find?_map, hin]
  cases hdef : isDefinition t <;> simp [hdef]

/-- Whether the nearest definition around a place is a function; `outside` says so for the tree
itself. -/
def isCharged (outside : Bool) (t : Tree) (p : Place) : Bool :=
  (((owner? t p).bind t.at?).map isFunction).getD outside

@[simp] theorem isCharged_nil (outside : Bool) (t : Tree) : isCharged outside t [] = outside := rfl

theorem isCharged_cons {t u : Tree} {i : Nat} (h : t.parts[i]? = some u) (outside : Bool)
    (p : Place) :
    isCharged outside t (i :: p) =
      isCharged (if isDefinition t then isFunction t else outside) u p := by
  unfold isCharged
  rw [owner?_cons h]
  cases howner : owner? u p with
  | none => cases isDefinition t <;> simp
  | some q =>
    have hsome : ∃ d, u.at? q = some d := by
      have hq := List.find?_some howner
      cases hd : u.at? q with
      | none => simp [hd] at hq
      | some d => exact ⟨d, rfl⟩
    obtain ⟨d, hd⟩ := hsome
    simp [h, hd]

/-! ## Sums over the nodes of a definition -/

theorem ownOf_eq (ts : List Tree) :
    ownOf ts = ts.flatMap fun u => if isDefinition u then [] else u :: own u := by
  induction ts with
  | nil => rfl
  | cons t ts ih => rw [ownOf, ih, List.flatMap_cons]

theorem own_eq (t : Tree) :
    own t = t.parts.flatMap fun u => if isDefinition u then [] else u :: own u := by
  cases t
  exact ownOf_eq _

/-- The nodes around which there is no definition, definitions left out. -/
def unowned (t : Tree) : List Tree :=
  (t.nodes.filter fun x => owner? t x.1 == none && !isDefinition x.2).map (·.2)

/-- The nodes below the root that the root owns if it is a definition, and none owns otherwise,
are those of the parts that none owns there. -/
theorem filter_parts (t : Tree) :
    ((t.parts.zipIdx.flatMap fun u => u.1.nodes.map (under u.2)).filter fun x =>
      owner? t x.1 == (if isDefinition t then some [] else none) && !isDefinition x.2).map (·.2) =
      t.parts.flatMap unowned := by
  rw [List.filter_flatMap, List.map_flatMap, List.flatMap_def, List.flatMap_def]
  refine congrArg List.flatten (map_zipIdx fun i u hu => ?_)
  rw [List.filter_map, List.map_map, unowned]
  congr 1
  refine List.filter_congr fun x _ => ?_
  simp only [Function.comp_def, under, owner?_cons hu]
  cases owner? u x.1 <;> cases isDefinition t <;> simp

/-- Below a definition every node has an owner. -/
theorem owner?_ne_none {t n : Tree} {i : Nat} {p : Place} (hdef : isDefinition t = true)
    (hn : t.at? (i :: p) = some n) : owner? t (i :: p) ≠ none := by
  obtain ⟨u, hu, -⟩ := Option.bind_eq_some_iff.mp hn
  rw [owner?_cons hu, hdef]
  cases owner? u p <;> simp

/-- A definition hides its parts, and what is no definition hides nothing. -/
theorem unowned_eq (t : Tree) : unowned t = if isDefinition t then [] else t :: own t := by
  induction t with
  | node form line parts ih =>
    set t : Tree := .node form line parts
    by_cases hdef : isDefinition t = true
    · rw [if_pos hdef, unowned, List.map_eq_nil_iff, List.filter_eq_nil_iff]
      rintro ⟨p, n⟩ hx
      have hn := mem_nodes.mp hx
      cases p with
      | nil =>
        obtain rfl : t = n := Option.some.inj hn
        simp [hdef]
      | cons i p => simp [owner?_ne_none hdef hn]
    · have hparts := filter_parts t
      simp only [hdef] at hparts
      rw [if_neg hdef, unowned, nodes_eq, List.filter_cons_of_pos (by simp [hdef]), List.map_cons]
      refine congrArg (t :: ·) (hparts.trans ?_)
      rw [own_eq]
      exact List.flatMap_congr ih

/-- The nodes that belong to a definition are those that it owns, definitions left out. -/
theorem own_eq_filter {t : Tree} (h : isDefinition t = true) :
    own t = (t.nodes.filter fun x => owner? t x.1 == some [] && !isDefinition x.2).map (·.2) := by
  have hparts := filter_parts t
  simp only [h, if_true] at hparts
  rw [nodes_eq, List.filter_cons_of_neg (by simp), hparts, own_eq]
  exact (List.flatMap_congr fun u _ => unowned_eq u).symm

/-- The weight of the nodes that belong to a definition. -/
def ownWeight (t : Tree) : Nat := ((own t).map weight).sum

theorem complexity_eq (t : Tree) : complexity t = 1 + ownWeight t := by
  rw [complexity, ownWeight, List.sum, List.foldr_map]

theorem weight_of_isDefinition {t : Tree} (h : isDefinition t = true) : weight t = 0 := by
  unfold isDefinition at h
  unfold weight
  split at h <;> simp_all

theorem isDefinition_of_isFunction {t : Tree} (h : isFunction t = true) :
    isDefinition t = true := by
  unfold isFunction at h
  unfold isDefinition
  split at h <;> simp_all

theorem ownWeight_eq (t : Tree) :
    ownWeight t =
      (t.parts.map fun u => if isDefinition u then 0 else weight u + ownWeight u).sum := by
  rw [ownWeight, own_eq, List.map_flatMap, List.flatMap_def, List.sum_flatten, List.map_map]
  refine congrArg List.sum (List.map_congr_left fun u _ => ?_)
  by_cases hdef : isDefinition u = true <;> simp [ownWeight, hdef]

/-- What the functions of a tree count, each in its own nodes. -/
def countedWeight (t : Tree) : Nat :=
  (t.nodes.map fun x => if isFunction x.2 then ownWeight x.2 else 0).sum

/-- The weight of the nodes around which the nearest definition is a function. -/
def chargedWeight (outside : Bool) (t : Tree) : Nat :=
  (t.nodes.map fun x => if isCharged outside t x.1 then weight x.2 else 0).sum

theorem countedWeight_eq (t : Tree) :
    countedWeight t =
      (if isFunction t then ownWeight t else 0) + (t.parts.map countedWeight).sum := by
  rw [countedWeight, sum_nodes]
  exact congrArg (_ + List.sum ·) (map_zipIdx fun i u _ => rfl)

theorem chargedWeight_eq (outside : Bool) (t : Tree) :
    chargedWeight outside t =
      (if outside then weight t else 0) +
        (t.parts.map (chargedWeight (if isDefinition t then isFunction t else outside))).sum := by
  rw [chargedWeight, sum_nodes]
  refine congrArg (_ + List.sum ·) (map_zipIdx fun i u hu => ?_)
  simp only [chargedWeight, under, isCharged_cons hu]

/-- The functions count what is charged to them, apart from the nodes that belong to the function
around the tree. -/
theorem chargedWeight_add (outside : Bool) (t : Tree) :
    chargedWeight outside t =
      (if outside then weight t + (if isDefinition t then 0 else ownWeight t) else 0) +
        countedWeight t := by
  induction t generalizing outside with
  | node form line parts ih =>
    set t : Tree := .node form line parts
    rw [chargedWeight_eq, countedWeight_eq]
    -- What is outside for the parts depends on `t`, so the induction leaves `outside` general.
    set inside := if isDefinition t then isFunction t else outside
    have hparts : t.parts.map (chargedWeight inside) = t.parts.map fun u =>
        (if inside then (if isDefinition u then 0 else weight u + ownWeight u) else 0) +
          countedWeight u := by
      refine List.map_congr_left fun u hu => ?_
      rw [ih u hu inside]
      by_cases hdef : isDefinition u = true <;> simp [hdef, weight_of_isDefinition]
    have hown : (t.parts.map fun u =>
        if inside then (if isDefinition u then 0 else weight u + ownWeight u) else 0).sum =
        if inside then ownWeight t else 0 := by
      cases inside <;> simp [ownWeight_eq t]
    rw [hparts, List.sum_map_add, hown]
    by_cases hdef : isDefinition t = true
    · cases outside <;> simp [inside, hdef, weight_of_isDefinition]
    · have hfun : isFunction t = false :=
        Bool.eq_false_iff.mpr fun h => hdef (isDefinition_of_isFunction h)
      cases outside <;> simp [inside, hdef, hfun, Nat.add_assoc]

/-! ## The kinds of decisions -/

/-- Statements and expressions that go one of two ways. -/
def isBranching (t : Tree) : Bool :=
  t.form matches .ifStatement | .ifExpression | .forLoop | .whileLoop | .handler _ | .matchCase

/-- The operands of a boolean operation after its first. -/
def furtherOperands : Tree → Nat
  | .node .boolean _ operands => operands.length - 1
  | _ => 0

/-- A clause of a comprehension together with its conditions. -/
def clauseDecisions : Tree → Nat
  | .node (.clause conditions) _ _ => 1 + conditions
  | _ => 0

theorem weight_eq (t : Tree) :
    weight t = (if isBranching t then 1 else 0) + furtherOperands t + clauseDecisions t := by
  obtain ⟨form, line, parts⟩ := t
  cases form <;> simp [weight, isBranching, furtherOperands, clauseDecisions, form, Tree.parts]

theorem sum_weight (ts : List Tree) :
    (ts.map weight).sum =
      ts.countP isBranching + (ts.map furtherOperands).sum + (ts.map clauseDecisions).sum := by
  have hcount : ts.countP isBranching = (ts.map fun t => if isBranching t then 1 else 0).sum := by
    induction ts with
    | nil => rfl
    | cons t ts ih => rw [List.countP_cons, ih, List.map_cons, List.sum_cons, Nat.add_comm]
  rw [hcount, ← List.sum_map_add, ← List.sum_map_add]
  exact congrArg List.sum (List.map_congr_left fun t _ => weight_eq t)

def isIfStatement (t : Tree) : Bool := t.form matches .ifStatement

theorem branches_eq (t : Tree) : branches t = (own t).countP isIfStatement := rfl

theorem isBranching_of_isIfStatement {t : Tree} (h : isIfStatement t = true) :
    isBranching t = true := by
  unfold isIfStatement at h
  unfold isBranching
  split at h <;> simp_all

theorem branches_le_ownWeight (t : Tree) : branches t ≤ ownWeight t := by
  rw [ownWeight, sum_weight, branches_eq]
  have hle := List.countP_mono_left (l := own t) fun u _ => isBranching_of_isIfStatement (t := u)
  omega

/-- The nodes around which the nearest definition is a function. -/
def charged (t : Tree) : List Tree :=
  (t.nodes.filter fun x => ((owner? t x.1).bind t.at?).any isFunction).map (·.2)

theorem sum_filter {α : Type} (p : α → Bool) (f : α → Nat) (xs : List α) :
    ((xs.filter p).map f).sum = (xs.map fun x => if p x then f x else 0).sum := by
  rw [List.sum_map_ite]
  simp

theorem sum_charged (t : Tree) : ((charged t).map weight).sum = chargedWeight false t := by
  rw [charged, chargedWeight, List.map_map, sum_filter]
  refine congrArg List.sum (List.map_congr_left fun x _ => ?_)
  unfold isCharged
  cases (owner? t x.1).bind t.at? <;> rfl

/-! ## Another definition in the place of one -/

/-- Puts a tree in the place of the one that stands there. -/
def put (new : Tree) : Place → Tree → Tree
  | [], _ => new
  | i :: p, .node form line parts => .node form line (parts.modify i (put new p))

theorem put_cons (new t : Tree) (i : Nat) (p : Place) :
    put new (i :: p) t = .node t.form t.line (t.parts.modify i (put new p)) := by
  cases t
  rfl

/-- What stands above the place keeps its own place. -/
theorem at?_put (new t : Tree) (q r : Place) :
    (put new (q ++ r) t).at? q = (t.at? q).map (put new r) := by
  induction q generalizing t with
  | nil => simp
  | cons i q ih =>
    rw [List.cons_append, put_cons, at?_cons, at?_cons, Tree.parts, List.getElem?_modify_eq]
    cases t.parts[i]? with
    | none => rfl
    | some u => exact ih u

/-- What a node weighs depends on its form and on how many parts it has. -/
def shape (t : Tree) : Form × Nat := (t.form, t.parts.length)

theorem shape_put (new t : Tree) (i : Nat) (p : Place) : shape (put new (i :: p) t) = shape t := by
  simp [put_cons, shape, Tree.form, Tree.parts]

theorem isDefinition_of_shape {t u : Tree} (h : shape t = shape u) :
    isDefinition t = isDefinition u := by
  rw [isDefinition, isDefinition, (Prod.mk.inj h).1]

theorem weight_of_shape {t u : Tree} (h : shape t = shape u) : weight t = weight u := by
  rw [weight, weight, (Prod.mk.inj h).1, (Prod.mk.inj h).2]

theorem flatMap_modify {α β : Type} {f : α → List β} {g : α → α} {xs : List α} {i : Nat}
    (h : ∀ x, xs[i]? = some x → f (g x) = f x) : (xs.modify i g).flatMap f = xs.flatMap f := by
  rw [List.flatMap_def, List.flatMap_def]
  congr 1
  refine List.ext_getElem? fun j => ?_
  rw [List.getElem?_map, List.getElem?_map, List.getElem?_modify]
  by_cases hij : i = j
  · subst hij
    cases hx : xs[i]? with
    | none => rfl
    | some x => simp [h x hx]
  · simp [hij]

/-- The nodes that belong to a definition keep their shapes when another definition stands in the
place of one below it. -/
theorem shapes_own_put {new t d : Tree} {i : Nat} {p : Place} (hd : t.at? (i :: p) = some d)
    (hdef : isDefinition d = true) (hnew : isDefinition new = true) :
    (own (put new (i :: p) t)).map shape = (own t).map shape := by
  induction p generalizing i t with
  | nil =>
    rw [own_eq, own_eq t, List.map_flatMap, List.map_flatMap, put_cons]
    refine flatMap_modify fun u hu => ?_
    obtain rfl : u = d := by simpa [hu] using hd
    simp [put, hdef, hnew]
  | cons j p ih =>
    rw [own_eq, own_eq t, List.map_flatMap, List.map_flatMap, put_cons]
    refine flatMap_modify fun u hu => ?_
    -- `u` only lies on the way to the place: it changes below and keeps its own shape.
    have hu' : u.at? (j :: p) = some d := by simpa [hu] using hd
    have hshape := shape_put new u j p
    rw [isDefinition_of_shape hshape]
    by_cases hin : isDefinition u = true
    · simp [hin]
    · simp [hin, hshape, ih hu']

theorem weights_of_shapes {ts us : List Tree} (h : ts.map shape = us.map shape) :
    ts.map weight = us.map weight := by
  rw [← List.forall₂_eq_eq_eq, List.forall₂_map_left_iff, List.forall₂_map_right_iff] at h ⊢
  exact h.imp fun _ _ => weight_of_shape

theorem complexity_put {new t d : Tree} {i : Nat} {p : Place} (hd : t.at? (i :: p) = some d)
    (hdef : isDefinition d = true) (hnew : isDefinition new = true) :
    complexity (put new (i :: p) t) = complexity t := by
  rw [complexity_eq, complexity_eq, ownWeight, ownWeight,
    weights_of_shapes (shapes_own_put hd hdef hnew)]

/-- Around a nested definition nothing is counted that stands inside it. -/
theorem complexity_at_put {t new d f : Tree} {p q : Place} (hd : t.at? p = some d)
    (hdef : isDefinition d = true) (hnew : isDefinition new = true) (hq : q ∈ above p)
    (hf : t.at? q = some f) :
    ∃ f', (put new p t).at? q = some f' ∧ complexity f' = complexity f := by
  obtain ⟨⟨r, rfl⟩, hne⟩ := mem_above.mp hq
  cases r with
  | nil => exact absurd (List.append_nil q).symm hne
  | cons i r =>
    refine ⟨put new (i :: r) f, by rw [at?_put, hf, Option.map_some], complexity_put ?_ hdef hnew⟩
    rw [at?_append, hf] at hd
    exact hd

/-- A function with one condition, in which a nested function has a loop and three operands. -/
def nestedFunctions : Tree :=
  .node .module 1 [.node (.function "outer" []) 1 [.node .ifStatement 2 [.plain 2 [],
    .node (.function "inner" []) 3 [.node .whileLoop 4
      [.node .boolean 4 [.plain 4 [], .plain 4 [], .plain 4 []], .node .pass 5 []]]]]]

end ReviewDesk.Inspection
