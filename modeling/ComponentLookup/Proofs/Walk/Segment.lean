import ComponentLookup.Proofs.Walk.Attribution
import Mathlib.Data.List.Infix

/-!
# The calls about some nodes

`Segment` says what the calls about some of the nodes of a tree are like, given the calls before
them.  Segments are put together as the nodes are:

* `Segment.append` : first the calls about some nodes, then those about others beside them;
* `Segment.removed` : the single call about a node that is removed;
* `Segment.stays` : the calls about a node that stays, from those about its children.

In the last one the children are those of the node alone, with paths and removals inside it.
-/

namespace ComponentLookup

open Json Call

variable {ε : Type}

/-! ### The calls about some nodes -/

section

variable {tree u v : Json} {before calls calls' : List (Path × Call ε)}
  {nodes nodes' : List (Path × Json)} {path : Path} {action : Action}

/-- The path leads into one of the given nodes, to a node above which the visitor has descended
into all nodes. -/
def Reached (calls : List (Path × Call ε)) (nodes : List (Path × Json)) (path : Path) (v : Json) :
    Prop :=
  ∃ node ∈ nodes, ∃ inner, path = node.1 ++ inner ∧ NodeAt node.2 inner v ∧
    ∀ p u, NodeAt node.2 p u → p <+: inner → p ≠ inner → Answered calls (node.1 ++ p) .descend

theorem Reached.mono (h : Reached calls nodes path v) (hnodes : ∀ node ∈ nodes, node ∈ nodes')
    (hcalls : ∀ node ∈ nodes, ∀ p, Answered calls (node.1 ++ p) .descend →
      Answered calls' (node.1 ++ p) .descend) : Reached calls' nodes' path v := by
  obtain ⟨node, hnode, inner, heq, hat, hall⟩ := h
  exact ⟨node, hnodes node hnode, inner, heq, hat, fun p u hp hpre hne =>
    hcalls node hnode p (hall p u hp hpre hne)⟩

theorem reached_append_iff :
    Reached calls (nodes ++ nodes') path v ↔
      Reached calls nodes path v ∨ Reached calls nodes' path v := by
  simp only [Reached, List.mem_append, or_and_right, exists_or]

/-- The calls are those about some of the nodes in a tree, after other calls. -/
structure Segment (tree : Json) (before : List (Path × Call ε)) (nodes : List (Path × Json))
    (calls : List (Path × Call ε)) : Prop where
  /-- Each call is about one of the nodes, or about one inside. -/
  inside : ∀ call ∈ calls, ∃ node ∈ nodes, node.1 <+: call.1
  preorder : (entered calls).Sublist (nodes.flatMap placesUnder)
  entered_iff : ∀ path v, (path, v) ∈ entered calls ↔ Reached calls nodes path v
  /-- Each call shows what is there after the removals so far. -/
  shows : ∀ earlier path call later, calls = earlier ++ (path, call) :: later →
    call.Shows (tree.remove (removed (before ++ earlier)))
      (moved (removed (before ++ earlier)) path)
  bracketed : Bracketed calls

/-! ### Calls side by side -/

namespace Segment

theorem nil (tree : Json) (before : List (Path × Call ε)) : Segment tree before [] [] where
  inside := List.forall_mem_nil _
  preorder := List.Sublist.refl _
  entered_iff path v := iff_of_false List.not_mem_nil fun ⟨_, h, _⟩ => List.not_mem_nil h
  shows earlier path call later h := absurd h.symm (by simp)
  bracketed := .nil

/-- What was answered about a node was not answered in calls about others. -/
theorem answered_append_left (h' : Segment tree before nodes' calls')
    (hpath : ∀ node ∈ nodes', ¬ node.1 <+: path) :
    Answered (calls ++ calls') path action ↔ Answered calls path action := by
  refine ⟨fun ⟨site, u, hmem⟩ => ⟨site, u, (List.mem_append.1 hmem).resolve_right fun hcall => ?_⟩,
    fun h => h.mono fun _ => List.mem_append_left _⟩
  obtain ⟨node, hnode, hpre⟩ := h'.inside _ hcall
  exact hpath node hnode hpre

theorem answered_append_right (h : Segment tree before nodes calls)
    (hpath : ∀ node ∈ nodes, ¬ node.1 <+: path) :
    Answered (calls ++ calls') path action ↔ Answered calls' path action := by
  refine ⟨fun ⟨site, u, hmem⟩ => ⟨site, u, (List.mem_append.1 hmem).resolve_left fun hcall => ?_⟩,
    fun h => h.mono fun _ => List.mem_append_right _⟩
  obtain ⟨node, hnode, hpre⟩ := h.inside _ hcall
  exact hpath node hnode hpre

/-- **The calls about some nodes, and then those about others** that stand beside them. -/
theorem append (h : Segment tree before nodes calls)
    (h' : Segment tree (before ++ calls) nodes' calls')
    (hapart : ∀ node ∈ nodes, ∀ node' ∈ nodes', ∀ path, node.1 <+: path → ¬ node'.1 <+: path) :
    Segment tree before (nodes ++ nodes') (calls ++ calls') where
  inside call hcall := by
    rcases List.mem_append.1 hcall with hcall | hcall
    · obtain ⟨node, hnode, hpre⟩ := h.inside call hcall
      exact ⟨node, List.mem_append_left _ hnode, hpre⟩
    · obtain ⟨node, hnode, hpre⟩ := h'.inside call hcall
      exact ⟨node, List.mem_append_right _ hnode, hpre⟩
  preorder := by
    rw [entered_append, List.flatMap_append]
    exact h.preorder.append h'.preorder
  entered_iff path v := by
    have hleft : ∀ node ∈ nodes, ∀ p, Answered (calls ++ calls') (node.1 ++ p) .descend ↔
        Answered calls (node.1 ++ p) .descend := fun node hnode p =>
      h'.answered_append_left fun node' hnode' =>
        hapart node hnode node' hnode' _ (List.prefix_append _ _)
    have hright : ∀ node ∈ nodes', ∀ p, Answered (calls ++ calls') (node.1 ++ p) .descend ↔
        Answered calls' (node.1 ++ p) .descend := fun node hnode p =>
      h.answered_append_right fun node' hnode' hpre =>
        hapart node' hnode' node hnode _ hpre (List.prefix_append _ _)
    rw [entered_append, List.mem_append, h.entered_iff, h'.entered_iff, reached_append_iff]
    exact or_congr
      ⟨fun hr => hr.mono (fun _ => id) fun node hnode p => (hleft node hnode p).2,
        fun hr => hr.mono (fun _ => id) fun node hnode p => (hleft node hnode p).1⟩
      ⟨fun hr => hr.mono (fun _ => id) fun node hnode p => (hright node hnode p).2,
        fun hr => hr.mono (fun _ => id) fun node hnode p => (hright node hnode p).1⟩
  shows earlier path call later heq := by
    rcases List.append_eq_append_iff.1 heq with ⟨rest, rfl, hrest⟩ | ⟨rest, rfl, hrest⟩
    · rw [← List.append_assoc]
      exact h'.shows rest path call later hrest
    · cases rest with
      | nil =>
        have hfirst := h'.shows [] path call later hrest.symm
        rwa [List.append_nil, List.append_nil] at hfirst
      | cons first rest =>
        obtain ⟨rfl, -⟩ := List.cons.inj hrest
        exact h.shows earlier path call rest rfl
  bracketed := by
    refine h.bracketed.append h'.bracketed fun call hcall call' hcall' hpre => ?_
    obtain ⟨node, hnode, hin⟩ := h.inside call hcall
    obtain ⟨node', hnode', hin'⟩ := h'.inside call' hcall'
    exact hapart node hnode node' hnode' _ (hin.trans hpre) hin'

end Segment

/-! ### Calls about a single node -/

/-- The node stands at the path in the tree, and the calls so far were not about it. -/
structure Untouched (tree : Json) (before : List (Path × Call ε)) (path : Path) (u : Json) :
    Prop where
  at?_eq : at? path tree = some u
  way : ∀ p, p ≠ [] → p <+: path → removed before p = false
  fresh : ∀ call ∈ before, ¬ path <+: call.1

theorem Untouched.at?_moved (h : Untouched tree before path u)
    (hinner : ∀ call ∈ calls, call.1 ≠ []) :
    at? (moved (removed (before ++ Call.under path calls)) path)
        (tree.remove (removed (before ++ Call.under path calls))) =
      some (u.remove (removed calls)) := by
  rw [← inside_removed_under path calls, ← inside_removed_append_right h.fresh]
  refine Json.at?_moved h.at?_eq fun p hp hpre => ?_
  rw [removed_append, h.way p hp hpre, Bool.false_or]
  refine removed_eq_false (List.forall_mem_map.2 fun call hcall heq => hinner call hcall ?_)
  -- a path that leads into the node is longer than one on the way to it
  have hle := (heq ▸ hpre).length_le
  simp only [Prod.map, List.length_append] at hle
  exact List.eq_nil_of_length_eq_zero (by omega)

/-- The children that are visited after the answer for their parent. -/
def visitedChildren (action : Action) (u : Json) : List (Path × Json) :=
  if action = .descend then childNodes u else []

theorem eq_of_mem_visitedChildren {c : Path × Json} (h : c ∈ visitedChildren action u) :
    action = .descend ∧ c ∈ childNodes u := by
  unfold visitedChildren at h
  split_ifs at h with haction
  · exact ⟨haction, h⟩
  · cases h

namespace Segment

variable {inner : List (Path × Call ε)}

/-- The calls about a node begin with the answer for it, and go on with those about its children. -/
structure IsAbout (path : Path) (u : Json) (action : Action) (inner calls : List (Path × Call ε)) :
    Prop where
  entered_eq : entered calls = (path, u) :: (entered inner).map (Prod.map (path ++ ·) id)
  answered_iff : ∀ p a, Answered calls (path ++ p) a ↔ p = [] ∧ action = a ∨ Answered inner p a

theorem IsAbout.entered_iff (h : IsAbout path u action inner calls) (hu : u.isNode = true)
    (hd : u.DistinctKeys) (hinner : Segment u [] (visitedChildren action u) inner) (p : Path)
    (v : Json) : (p, v) ∈ entered calls ↔ Reached calls [(path, u)] p v := by
  rw [h.entered_eq]
  constructor
  · intro hmem
    rcases List.mem_cons.1 hmem with heq | hmem
    · cases heq
      exact ⟨_, List.mem_cons_self, [], (List.append_nil _).symm, .root hu,
        fun _ _ _ hpre hne => absurd (List.prefix_nil.1 hpre) hne⟩
    · obtain ⟨⟨q, w⟩, hq, heq⟩ := List.mem_map.1 hmem
      cases heq
      obtain ⟨c, hc, q, rfl, hat, hall⟩ := (hinner.entered_iff q w).1 hq
      obtain ⟨rfl, hchild⟩ := eq_of_mem_visitedChildren hc
      refine ⟨_, List.mem_cons_self, c.1 ++ q, rfl, .child hchild hat, fun p x hp hpre hne => ?_⟩
      rw [h.answered_iff]
      cases hp with
      | root => exact .inl ⟨rfl, rfl⟩
      | child hd' hp =>
        -- what is on the way is in the same child
        obtain rfl := eq_of_prefix_childNodes hd hd' hchild
          ((List.prefix_append _ _).trans hpre) (List.prefix_append _ _)
        exact .inr (hall _ _ hp ((List.prefix_append_right_inj _).1 hpre)
          fun heq => hne (heq ▸ rfl))
  · rintro ⟨node, hnode, q, rfl, hat, hall⟩
    cases List.mem_singleton.1 hnode
    simp only [h.answered_iff] at hall
    cases hat with
    | root => exact List.mem_cons.2 (.inl (by rw [List.append_nil]))
    | @child _ _ q c hc hat =>
      have hne := ne_nil_of_mem_childNodes hc
      -- the visitor descended into the node itself
      have haction : action = .descend := by
        rcases hall [] u (.root hu) List.nil_prefix fun heq => hne
          (List.append_eq_nil_iff.1 heq.symm).1 with ⟨-, haction⟩ | ⟨site, w, hmem⟩
        · exact haction
        · obtain ⟨c', hc', hpre⟩ := hinner.inside _ hmem
          exact absurd (List.prefix_nil.1 hpre)
            (ne_nil_of_mem_childNodes (eq_of_mem_visitedChildren hc').2)
      refine List.mem_cons_of_mem _ (List.mem_map.2 ⟨(c.1 ++ q, v), ?_, rfl⟩)
      refine (hinner.entered_iff _ _).2 ⟨c, ?_, q, rfl, hat, fun p x hp hpre hpq => ?_⟩
      · rw [visitedChildren, if_pos haction]
        exact hc
      · refine (hall (c.1 ++ p) x (.child hc hp) ((List.prefix_append_right_inj _).2 hpre)
          fun heq => hpq (List.append_cancel_left heq)).resolve_left fun h => hne ?_
        exact (List.append_eq_nil_iff.1 h.1).1

theorem IsAbout.preorder (h : IsAbout path u action inner calls) (hu : u.isNode = true)
    (hinner : Segment u [] (visitedChildren action u) inner) :
    (entered calls).Sublist ([(path, u)].flatMap placesUnder) := by
  obtain ⟨fields, rfl⟩ := exists_fields_of_isNode hu
  have hchildren : ((visitedChildren action (.obj fields)).flatMap placesUnder).Sublist
      (placesInFields fields) := by
    unfold visitedChildren
    split_ifs
    · exact sublist_placesUnder_childNodes fields
    · exact List.nil_sublist _
  have hself : Prod.map (path ++ ·) id (([] : Path), Json.obj fields) = (path, .obj fields) := by
    rw [Prod.map, List.append_nil, id]
  rw [h.entered_eq, List.flatMap_singleton, placesUnder, places, List.map_cons, hself]
  exact ((hinner.preorder.trans hchildren).map _).cons_cons _

/-- Behind its children a node is left, or nothing comes at all. -/
theorem isAbout (path : Path) (u : Json) (action : Action) (inner : List (Path × Call ε))
    (site : Site) {last : List (Path × Call ε)}
    (hlast : ∀ call ∈ last, ∃ site' v, call.2 = .leave site' v) :
    IsAbout path u action inner
      ((path, .enter site u (.ok action)) :: (Call.under path inner ++ last)) where
  entered_eq := by
    have hnone : entered last = [] := List.filterMap_eq_nil_iff.2 fun call hcall => by
      obtain ⟨site', v, heq⟩ := hlast call hcall
      rw [heq]
    have hcons : ∀ calls : List (Path × Call ε),
        entered ((path, .enter site u (.ok action)) :: calls) = (path, u) :: entered calls :=
      fun _ => rfl
    rw [hcons, entered_append, entered_under, hnone, List.append_nil]
  answered_iff p a := by
    constructor
    · rintro ⟨site', v, hmem⟩
      rcases List.mem_cons.1 hmem with heq | hmem
      · simp only [Prod.mk.injEq, Call.enter.injEq, Except.ok.injEq, List.append_right_eq_self]
          at heq
        exact .inl ⟨heq.1, heq.2.2.2.symm⟩
      · rcases List.mem_append.1 hmem with hmem | hmem
        · exact .inr (answered_under.1 ⟨site', v, hmem⟩)
        · obtain ⟨_, _, heq⟩ := hlast _ hmem
          cases heq
    · rintro (⟨rfl, rfl⟩ | hanswered)
      · exact ⟨site, u, by rw [List.append_nil]; exact List.mem_cons_self⟩
      · exact (answered_under.2 hanswered).mono fun _ hmem =>
          List.mem_cons_of_mem _ (List.mem_append_left _ hmem)

variable {site site' : Site}

theorem shows_enter (h : Untouched tree before path u) (outcome : Except ε Action)
    (hsite : site.Stands (tree.remove (Call.removed before)) (moved (Call.removed before) path)) :
    (Call.enter site u outcome).Shows (tree.remove (Call.removed (before ++ [])))
      (moved (Call.removed (before ++ [])) path) := by
  have hat := h.at?_moved (List.forall_mem_nil _)
  have hunder : before ++ Call.under path ([] : List (Path × Call ε)) = before :=
    List.append_nil before
  rw [hunder] at hat
  rw [List.append_nil]
  exact ⟨hsite, hat.trans (congrArg some (remove_removed_nil u))⟩

/-- **The call about a node that is removed.** -/
theorem removed (h : Untouched tree before path u) (hu : u.isNode = true) (hd : u.DistinctKeys)
    (hroot : site ≠ .root)
    (hsite : site.Stands (tree.remove (Call.removed before)) (moved (Call.removed before) path)) :
    Segment tree before [(path, u)] [(path, .enter site u (.ok .remove))] := by
  have hinner : Segment u [] (visitedChildren .remove u) ([] : List (Path × Call ε)) := .nil u []
  have habout := isAbout path u .remove ([] : List (Path × Call ε)) site (List.forall_mem_nil _)
  refine ⟨fun call hcall => ?_, habout.preorder hu hinner, habout.entered_iff hu hd hinner,
    fun earlier p call later heq => ?_, .removed hroot (List.forall_mem_nil _) .nil⟩
  · rw [List.mem_singleton.1 hcall]
    exact ⟨_, List.mem_cons_self, List.prefix_rfl⟩
  · obtain ⟨rfl, heq⟩ | ⟨_, -, heq⟩ := List.cons_eq_append_iff.1 heq
    · cases heq
      exact shows_enter h _ hsite
    · exact absurd heq.symm (by simp)

/-- The calls about what is below a node are not about the node itself. -/
theorem ne_nil (h : Segment u [] (visitedChildren action u) inner) :
    ∀ call ∈ inner, call.1 ≠ [] := fun call hcall heq => by
  obtain ⟨c, hc, hpre⟩ := h.inside call hcall
  rw [heq] at hpre
  exact ne_nil_of_mem_childNodes (eq_of_mem_visitedChildren hc).2 (List.prefix_nil.1 hpre)

/-- **The calls about a node that stays.** -/
theorem stays (h : Untouched tree before path u) (hu : u.isNode = true) (hd : u.DistinctKeys)
    (hroot : action = .remove → site = .root)
    (hinner : Segment u [] (visitedChildren action u) inner)
    (hsite : site.Stands (tree.remove (Call.removed before)) (moved (Call.removed before) path))
    (hkey : site'.key? = site.key?) (hindex : site'.index? = site.index?)
    (hsite' : site'.Stands (tree.remove (Call.removed (before ++ Call.under path inner)))
      (moved (Call.removed (before ++ Call.under path inner)) path)) :
    Segment tree before [(path, u)] ((path, .enter site u (.ok action)) ::
      (Call.under path inner ++ [(path, .leave site' (u.remove (Call.removed inner)))])) := by
  set last : Path × Call ε := (path, .leave site' (u.remove (Call.removed inner)))
  have habout := isAbout path u action inner site (List.forall_mem_singleton.2 ⟨_, _, rfl⟩ :
    ∀ call ∈ [last], ∃ site' v, call.2 = .leave site' v)
  have hne := hinner.ne_nil
  have hunder : ∀ call ∈ Call.under path inner, path <+: call.1 ∧ call.1 ≠ path :=
    List.forall_mem_map.2 fun call hcall => ⟨List.prefix_append _ _, fun heq =>
      hne call hcall (List.append_right_eq_self.1 heq)⟩
  have hstays : (Call.enter site u (.ok action) : Call ε).removes = false :=
    removes_eq_false hroot
  refine ⟨fun call hcall => ?_, habout.preorder hu hinner, habout.entered_iff hu hd hinner,
    fun before' p call later hsplit => ?_, .stays hroot hkey hindex hunder (List.forall_mem_nil _)
      (hinner.bracketed.under path) .nil⟩
  · refine ⟨_, List.mem_cons_self, ?_⟩
    rcases List.mem_cons.1 hcall with rfl | hcall
    · exact List.prefix_rfl
    · rcases List.mem_append.1 hcall with hcall | hcall
      · exact (hunder call hcall).1
      · exact List.mem_singleton.1 hcall ▸ List.prefix_rfl
  · obtain ⟨rfl, heq⟩ | ⟨earlier, rfl, heq⟩ := List.cons_eq_append_iff.1 hsplit
    · cases heq
      exact shows_enter h _ hsite
    clear hsplit
    rw [removed_append_cons hstays]
    rcases List.eq_nil_or_concat later with rfl | ⟨later, x, rfl⟩
    · obtain ⟨rfl, hlast⟩ := List.append_inj' heq rfl
      have hcall : (p, call) = (path, Call.leave site' (u.remove (Call.removed inner))) :=
        (List.cons.inj hlast).1.symm
      cases hcall
      exact ⟨hsite', h.at?_moved hne⟩
    · rw [List.concat_eq_append, ← List.cons_append, ← List.append_assoc] at heq
      obtain ⟨earlier, rest, rfl, rfl, hrest⟩ :=
        List.map_eq_append_iff.1 (List.append_inj' heq rfl).1
      obtain ⟨⟨q, call'⟩, later, rfl, hcall, rfl⟩ := List.map_eq_cons_iff.1 hrest
      cases hcall
      have hne' : ∀ call ∈ earlier, call.1 ≠ [] := fun call hcall =>
        hne call (List.mem_append_left _ hcall)
      have hq : q ≠ [] := hne (q, call') (List.mem_append_right _ List.mem_cons_self)
      have hshows := hinner.shows earlier q call' later rfl
      rw [List.nil_append] at hshows
      have hlift := hshows.under (moved_ne_nil hq) (h.at?_moved hne')
      rwa [← inside_removed_under path earlier, ← inside_removed_append_right h.fresh,
        ← moved_append] at hlift

end Segment
end

end ComponentLookup
