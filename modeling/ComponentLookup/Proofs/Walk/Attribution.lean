import ComponentLookup.Proofs.Json.Removal
import ComponentLookup.Proofs.Node.Children
import ComponentLookup.Proofs.Walk.Calls

/-!
# Which call is about which node

A call shows a node with its parent, but the parent changes during a walk, and equal nodes may stand
in several places.  A call is therefore paired with the path of its node in the tree as it was
before the walk.  The path does not change while other nodes are removed.

* `Call.Answered`, `Call.removed` : what was answered for the node at a path.
* `Call.Shows` : a call shows what is at a path of the tree as it is at that time, and the place
  that it shows is that of the path.
* `Call.Bracketed` : the calls are well bracketed.  Just the nodes that stay are left again
  (`Call.Bracketed.left_perm`).
-/

namespace ComponentLookup

open Json

variable {ε : Type}

/-! ### Calls with their paths -/

namespace Call

/-- The nodes that were entered, with their paths. -/
def entered (calls : List (Path × Call ε)) : List (Path × Json) :=
  calls.filterMap fun call =>
    match call.2 with
    | .enter _ v _ => some (call.1, v)
    | .leave .. => none

/-- The paths of the nodes that were left. -/
def left (calls : List (Path × Call ε)) : List Path :=
  calls.filterMap fun call =>
    match call.2 with
    | .enter .. => none
    | .leave .. => some call.1

/-- The visitor gave the answer when it entered the node at the path. -/
def Answered (calls : List (Path × Call ε)) (path : Path) (action : Action) : Prop :=
  ∃ site v, (path, Call.enter site v (.ok action)) ∈ calls

/-- The paths at which a node was removed. -/
def removed (calls : List (Path × Call ε)) : Path → Bool := fun path =>
  calls.any fun call => decide (call.1 = path) && call.2.removes

/-- The calls about what is inside the value at a path. -/
def under (path : Path) (calls : List (Path × Call ε)) : List (Path × Call ε) :=
  calls.map (Prod.map (path ++ ·) id)

variable {calls calls' before : List (Path × Call ε)} {path path' : Path} {action : Action}

theorem mem_entered {v : Json} :
    (path, v) ∈ entered calls ↔ ∃ site outcome, (path, .enter site v outcome) ∈ calls := by
  rw [entered, List.mem_filterMap]
  constructor
  · rintro ⟨⟨p, call⟩, hcall, heq⟩
    cases call with
    | enter site u outcome =>
      cases heq
      exact ⟨site, outcome, hcall⟩
    | leave site u => cases heq
  · rintro ⟨site, outcome, hcall⟩
    exact ⟨_, hcall, rfl⟩

theorem entered_append : entered (calls ++ calls') = entered calls ++ entered calls' :=
  List.filterMap_append

theorem entered_under :
    entered (under path calls) = (entered calls).map (Prod.map (path ++ ·) id) := by
  rw [entered, entered, under, List.filterMap_map, List.map_filterMap]
  refine List.filterMap_congr fun call _ => ?_
  obtain ⟨p, call⟩ := call
  cases call <;> rfl

theorem Answered.mono (h : Answered calls path action) (hsub : ∀ call ∈ calls, call ∈ calls') :
    Answered calls' path action := by
  obtain ⟨site, v, hmem⟩ := h
  exact ⟨site, v, hsub _ hmem⟩

theorem mem_under_iff {call : Path × Call ε} :
    call ∈ under path calls ↔ ∃ p, (p, call.2) ∈ calls ∧ call.1 = path ++ p := by
  constructor
  · intro h
    obtain ⟨inner, hinner, rfl⟩ := List.mem_map.1 h
    exact ⟨inner.1, hinner, rfl⟩
  · rintro ⟨p, hp, heq⟩
    exact List.mem_map.2 ⟨_, hp, Prod.ext heq.symm rfl⟩

theorem map_snd_under (path : Path) (calls : List (Path × Call ε)) :
    (under path calls).map Prod.snd = calls.map Prod.snd := by
  rw [under, List.map_map]
  rfl

theorem answered_under : Answered (under path calls) (path ++ path') action ↔
    Answered calls path' action := by
  simp only [Answered, mem_under_iff, List.append_cancel_left_eq, exists_eq_right']

/-! ### Removed nodes -/

theorem removes_eq_false {site : Site} {v : Json} (h : action = .remove → site = .root) :
    (Call.enter site v (.ok action) : Call ε).removes = false := by
  cases site with
  | root => rfl
  | _ =>
    cases action with
    | remove => cases h rfl
    | _ => rfl

theorem removed_eq_true_iff :
    removed calls path = true ↔ ∃ call, (path, call) ∈ calls ∧ call.removes = true := by
  simp [removed, List.any_eq_true]

theorem removed_cons_self {site : Site} {v : Json} (h : site ≠ .root) :
    removed ((path, .enter site v (.ok .remove)) :: calls) path = true :=
  removed_eq_true_iff.2 ⟨_, List.mem_cons_self, removes_iff.2 ⟨site, v, rfl, h⟩⟩

/-- Before any call nothing has been removed. -/
theorem remove_removed_nil (v : Json) : v.remove (removed ([] : List (Path × Call ε))) = v :=
  remove_nowhere v

theorem removed_append (calls calls' : List (Path × Call ε)) (path : Path) :
    removed (calls ++ calls') path = (removed calls path || removed calls' path) :=
  List.any_append

theorem removed_eq_false (h : ∀ call ∈ calls, call.1 ≠ path) : removed calls path = false := by
  rw [removed, List.any_eq_false]
  intro call hcall
  rw [decide_eq_false (h call hcall), Bool.false_and]
  exact Bool.false_ne_true

/-- Only what removes a node counts. -/
theorem removed_append_cons {call : Call ε} (h : call.removes = false) :
    removed (before ++ (path, call) :: calls) = removed (before ++ calls) := by
  funext p
  rw [removed_append, removed_append, removed, removed, removed, List.any_cons, h, Bool.and_false,
    Bool.false_or]

/-- A path along which no call has been made leads to a value that is whole. -/
theorem inside_removed_of_fresh (h : ∀ call ∈ calls, ¬ path <+: call.1) :
    inside (removed calls) path = nowhere := by
  funext p
  exact removed_eq_false fun call hcall heq => h call hcall (heq ▸ List.prefix_append path p)

theorem inside_removed_append_left (h : ∀ call ∈ calls', ¬ path <+: call.1) :
    inside (removed (calls ++ calls')) path = inside (removed calls) path := by
  funext p
  have hright := congrFun (inside_removed_of_fresh h) p
  rw [inside] at hright
  rw [inside, removed_append, hright, nowhere, Bool.or_false, inside]

theorem inside_removed_append_right (h : ∀ call ∈ calls, ¬ path <+: call.1) :
    inside (removed (calls ++ calls')) path = inside (removed calls') path := by
  funext p
  have hleft := congrFun (inside_removed_of_fresh h) p
  rw [inside] at hleft
  rw [inside, removed_append, hleft, nowhere, Bool.false_or, inside]

/-- What was removed inside the value at a path. -/
theorem inside_removed_under (path : Path) (calls : List (Path × Call ε)) :
    inside (removed (under path calls)) path = removed calls := by
  funext p
  simp only [inside, removed, under, List.any_map, Function.comp_def, Prod.map,
    List.append_cancel_left_eq, id]

end Call

/-! ### Sites -/

/-- The site is that of a path, in the given tree: it has the node above, the field and, in a list,
the position. -/
inductive Site.Stands (now : Json) : Site → Path → Prop
  | root : Stands now .root []
  | field {path : Path} {parent : Json} {key : String} : at? path now = some parent →
      Stands now (.field parent key) (path ++ [.field key])
  | item {path : Path} {parent : Json} {key : String} {index : Nat} : at? path now = some parent →
      Stands now (.item parent key index) (path ++ [.field key, .item index])

/-- The parent holds the node in its field, or at the position in the list there. -/
def Site.Holds : Site → Json → Prop
  | .root, _ => True
  | .field parent key, v => parent.get? key = some v
  | .item parent key index, v =>
    ∃ items, parent.get? key = some (.arr items) ∧ items[index]? = some v

/-- The call shows the node that is at the path of the given tree, with its place. -/
structure Call.Shows (call : Call ε) (now : Json) (path : Path) : Prop where
  stands : call.site.Stands now path
  node_eq : at? path now = some call.node

section

variable {now v : Json} {site : Site} {path path' : Path}

theorem Site.Stands.eq_root (h : site.Stands now []) : site = .root := by
  generalize hp : ([] : Path) = p at h
  cases h with
  | root => rfl
  | field | item => exact absurd (List.append_eq_nil_iff.1 hp.symm).2 (List.cons_ne_nil _ _)

theorem Site.Stands.ne_root (h : site.Stands now path) (hne : path ≠ []) : site ≠ .root := by
  rintro rfl
  cases h
  exact hne rfl

theorem Site.Stands.index?_eq {key : String} {i : Nat}
    (h : site.Stands now (path ++ [.field key, .item i])) : site.index? = some i := by
  generalize hp : path ++ [.field key, .item i] = p at h
  cases h with
  | root => exact absurd (List.append_eq_nil_iff.1 hp).2 (List.cons_ne_nil _ _)
  | field =>
    rw [← List.singleton_append, ← List.append_assoc] at hp
    cases (List.append_inj' hp rfl).2
  | item =>
    cases (List.append_inj' hp rfl).2
    rfl

theorem Site.Stands.under (h : site.Stands v path') (hne : path' ≠ [])
    (hat : at? path now = some v) : site.Stands now (path ++ path') := by
  have hat' : ∀ p, at? (path ++ p) now = at? p v := fun p => by
    rw [at?_append, hat, Option.bind_some]
  cases h with
  | root => exact absurd rfl hne
  | field hp =>
    rw [← List.append_assoc]
    exact .field ((hat' _).trans hp)
  | item hp =>
    rw [← List.append_assoc]
    exact .item ((hat' _).trans hp)

theorem Call.Shows.under {call : Call ε} (h : call.Shows v path') (hne : path' ≠ [])
    (hat : at? path now = some v) : call.Shows now (path ++ path') where
  stands := h.stands.under hne hat
  node_eq := by rw [at?_append, hat, Option.bind_some, h.node_eq]

/-- What is shown is held by the parent. -/
theorem Call.Shows.holds {call : Call ε} (h : call.Shows now path) :
    call.site.Holds call.node := by
  obtain ⟨hstands, hnode⟩ := h
  generalize call.site = site at hstands
  cases hstands with
  | root => trivial
  | field hp => rwa [at?_append, hp, Option.bind_some, at?_singleton] at hnode
  | item hp =>
    rw [at?_append, hp, Option.bind_some, at?_field] at hnode
    obtain ⟨u, hu, hnode⟩ := Option.bind_eq_some_iff.1 hnode
    rw [at?_cons] at hnode
    obtain ⟨w, hw, hself⟩ := Option.bind_eq_some_iff.1 hnode
    obtain ⟨items, rfl, hi⟩ := exists_items_of_child? hw
    exact ⟨items, hu, hi.trans hself⟩

end

/-! ### Brackets -/

/-- The calls are well bracketed.  A node that is entered is left again, with the same field and
position, unless it was removed, and in between there are just the calls for what is inside it. -/
inductive Call.Bracketed : List (Path × Call ε) → Prop
  | nil : Bracketed []
  | removed {path : Path} {site : Site} {v : Json} {rest : List (Path × Call ε)} :
      site ≠ .root → (∀ call ∈ rest, ¬ path <+: call.1) → Bracketed rest →
      Bracketed ((path, .enter site v (.ok .remove)) :: rest)
  | stays {path : Path} {site site' : Site} {v v' : Json} {action : Action}
      {inner rest : List (Path × Call ε)} :
      (action = .remove → site = .root) → site'.key? = site.key? → site'.index? = site.index? →
      (∀ call ∈ inner, path <+: call.1 ∧ call.1 ≠ path) → (∀ call ∈ rest, ¬ path <+: call.1) →
      Bracketed inner → Bracketed rest →
      Bracketed ((path, .enter site v (.ok action)) :: (inner ++ (path, .leave site' v') :: rest))

namespace Call.Bracketed

variable {calls calls' : List (Path × Call ε)}

theorem append (h : Bracketed calls) (h' : Bracketed calls')
    (hapart : ∀ call ∈ calls, ∀ call' ∈ calls', ¬ call.1 <+: call'.1) :
    Bracketed (calls ++ calls') := by
  induction h with
  | nil => exact h'
  | @removed path site v rest hsite hrest _ ih =>
    rw [List.forall_mem_cons] at hapart
    refine .removed hsite (fun call hcall => ?_) (ih hapart.2)
    exact (List.mem_append.1 hcall).elim (hrest call) (hapart.1 call)
  | @stays path site site' v v' action inner rest haction hkey hindex hinner hrest hb _ _ ih =>
    rw [List.forall_mem_cons] at hapart
    rw [List.cons_append, List.append_assoc, List.cons_append]
    refine .stays haction hkey hindex hinner (fun call hcall => ?_) hb (ih fun call hcall => ?_)
    · exact (List.mem_append.1 hcall).elim (hrest call) (hapart.1 call)
    · exact hapart.2 call (List.mem_append_right _ (List.mem_cons_of_mem _ hcall))

theorem under (h : Bracketed calls) (path : Path) : Bracketed (under path calls) := by
  induction h with
  | nil => exact .nil
  | removed hsite hrest _ ih =>
    refine .removed hsite (List.forall_mem_map.2 fun call hcall hpre => ?_) ih
    exact hrest call hcall ((List.prefix_append_right_inj path).1 hpre)
  | stays haction hkey hindex hinner hrest _ _ ih ih' =>
    rw [Call.under, List.map_cons, List.map_append, List.map_cons]
    refine .stays haction hkey hindex (List.forall_mem_map.2 fun call hcall => ?_)
      (List.forall_mem_map.2 fun call hcall hpre => ?_) ih ih'
    · obtain ⟨hpre, hne⟩ := hinner call hcall
      exact ⟨(List.prefix_append_right_inj path).2 hpre,
        fun heq => hne (List.append_cancel_left heq)⟩
    · exact hrest call hcall ((List.prefix_append_right_inj path).1 hpre)

theorem exists_of_mem_entered {path : Path} (h : path ∈ (entered calls).map Prod.fst) :
    ∃ call ∈ calls, call.1 = path := by
  obtain ⟨node, hnode, rfl⟩ := List.mem_map.1 h
  obtain ⟨site, outcome, hcall⟩ := mem_entered.1 hnode
  exact ⟨_, hcall, rfl⟩

/-- **Just those nodes are left again that stay**, and each of them once. -/
theorem left_perm (h : Bracketed calls) :
    (left calls).Perm
      (((entered calls).map Prod.fst).filter fun path => !Call.removed calls path) := by
  induction h with
  | nil => exact .nil
  | @removed path site v rest hsite hrest _ ih =>
    have hself : Call.removed ((path, .enter site v (.ok .remove)) :: rest) path = true :=
      removed_cons_self hsite
    have hother : ∀ p ∈ (entered rest).map Prod.fst,
        (!Call.removed ((path, .enter site v (.ok .remove)) :: rest) p) =
          !Call.removed rest p := fun p hp => by
      obtain ⟨call, hcall, rfl⟩ := exists_of_mem_entered hp
      have hne : path ≠ call.1 := fun heq => hrest call hcall (heq ▸ List.prefix_rfl)
      simp [Call.removed, hne]
    have hentered : (entered ((path, .enter site v (.ok .remove)) :: rest)).map Prod.fst =
        path :: (entered rest).map Prod.fst := rfl
    rw [hentered, List.filter_cons_of_neg (by rw [hself]; exact Bool.false_ne_true),
      List.filter_congr hother]
    exact ih
  | @stays path site site' v v' action inner rest haction _ _ hinner hrest _ _ ih ih' =>
    have hremoved : Call.removed ((path, .enter site v (.ok action)) ::
        (inner ++ (path, .leave site' v') :: rest)) = Call.removed (inner ++ rest) := by
      rw [← List.nil_append (_ :: _), removed_append_cons (removes_eq_false haction),
        List.nil_append, removed_append_cons rfl]
    have hentered : (entered ((path, .enter site v (.ok action)) ::
        (inner ++ (path, .leave site' v') :: rest))).map Prod.fst =
          path :: ((entered inner).map Prod.fst ++ (entered rest).map Prod.fst) := by
      rw [← List.map_append]
      exact congrArg (fun nodes => path :: nodes.map Prod.fst) entered_append
    have hleft : left ((path, .enter site v (.ok action)) ::
        (inner ++ (path, .leave site' v') :: rest)) = left inner ++ path :: left rest :=
      List.filterMap_append
    have hself : Call.removed (inner ++ rest) path = false := by
      rw [removed_append, removed_eq_false fun call hcall => (hinner call hcall).2,
        removed_eq_false fun call hcall heq => hrest call hcall (heq ▸ List.prefix_rfl)]
      rfl
    -- what is removed inside the node is not behind it, and conversely
    have hin : ∀ p ∈ (entered inner).map Prod.fst,
        (!Call.removed (inner ++ rest) p) = !Call.removed inner p := fun p hp => by
      obtain ⟨call, hcall, rfl⟩ := exists_of_mem_entered hp
      have hnone : Call.removed rest call.1 = false :=
        removed_eq_false fun other hother heq => hrest other hother (heq ▸ (hinner call hcall).1)
      rw [removed_append, hnone, Bool.or_false]
    have hbehind : ∀ p ∈ (entered rest).map Prod.fst,
        (!Call.removed (inner ++ rest) p) = !Call.removed rest p := fun p hp => by
      obtain ⟨call, hcall, rfl⟩ := exists_of_mem_entered hp
      have hnone : Call.removed inner call.1 = false :=
        removed_eq_false fun other hother heq => hrest call hcall (heq ▸ (hinner other hother).1)
      rw [removed_append, hnone, Bool.false_or]
    rw [hleft, hentered, hremoved, List.filter_cons_of_pos (by rw [hself]; rfl),
      List.filter_append, List.filter_congr hin, List.filter_congr hbehind]
    exact List.perm_middle.trans ((ih.append ih').cons path)

end Call.Bracketed

end ComponentLookup
