import Mathlib.Data.Finset.Card
import Mathlib.Logic.Function.Iterate
import Mathlib.Logic.Relation
import Mathlib.Order.Basic
import Mathlib.Tactic

/-!
# Union-find over a linear order

Parent pointers that never increase, so a chain of parents ends at a fixed point. `root`
follows a chain, `compress` redirects it to its root, and `connect` hangs the larger of two
roots below the smaller one. Compression changes no root, and after a run of `connect` two
nodes share a root exactly when the connected pairs generate their equivalence.
-/

namespace AgentRemote.Library
open Relation

variable {α : Type*} [LinearOrder α]

structure Forest (α : Type*) where
  nodes : List α
  parent : α → α

namespace Forest

/-- Parents are no larger than their children and stay among the nodes. -/
structure Valid (f : Forest α) : Prop where
  parent_le : ∀ x, f.parent x ≤ x
  parent_mem : ∀ x ∈ f.nodes, f.parent x ∈ f.nodes

def singletons (nodes : List α) : Forest α := ⟨nodes, id⟩

/-- Follows parents to a fixed point. -/
def climb (parent : α → α) : ℕ → α → α
  | 0, x => x
  | n + 1, x => if parent x = x then x else climb parent n (parent x)

/-- No chain without repetition is longer than the list of nodes. -/
def root (f : Forest α) (x : α) : α := climb f.parent f.nodes.length x

def setParent (f : Forest α) (x y : α) : Forest α :=
  { f with parent := Function.update f.parent x y }

/-- Redirects the chain from `x` to `r`. -/
def compressLoop (f : Forest α) (r : α) : ℕ → α → Forest α
  | 0, _ => f
  | n + 1, x => if x = r then f else compressLoop (f.setParent x r) r n (f.parent x)

def compress (f : Forest α) (x : α) : Forest α := compressLoop f (f.root x) f.nodes.length x

def connect (f : Forest α) (left right : α) : Forest α :=
  let a := f.root left
  let f := f.compress left
  let b := f.root right
  let f := f.compress right
  if a = b then f else f.setParent (max a b) (min a b)

/-- The nodes grouped by their root. -/
def groups (f : Forest α) : List (List α) :=
  (f.nodes.map f.root).dedup.map fun r => f.nodes.filter (f.root · = r)

/-! ### Chains of parents -/

/-- `r` ends the chain of parents of `x`. -/
def Climbs (f : Forest α) (x r : α) : Prop :=
  ReflTransGen (fun a b => f.parent a = b) x r ∧ f.parent r = r

variable {f : Forest α}

omit [LinearOrder α] in
lemma Climbs.unique {x r r' : α} (h : f.Climbs x r) (h' : f.Climbs x r') : r = r' := by
  obtain ⟨hr, hfix⟩ := h
  induction hr using ReflTransGen.head_induction_on with
  | refl =>
    have hstay : ∀ z, ReflTransGen (fun a b => f.parent a = b) r z → z = r := by
      intro z hz
      induction hz with
      | refl => rfl
      | tail _ hstep ih => rw [← hstep, ih, hfix]
    exact (hstay r' h'.1).symm
  | head hab _ ih =>
    refine ih ⟨?_, h'.2⟩
    rcases h'.1.cases_head with rfl | ⟨c, hc, hcr⟩
    · rw [← hab, h'.2]
    · rw [← hab, hc]
      exact hcr

omit [LinearOrder α] in
lemma Climbs.parent {x r : α} (h : f.Climbs x r) : f.Climbs (f.parent x) r := by
  refine ⟨?_, h.2⟩
  rcases h.1.cases_head with rfl | ⟨c, hc, hcr⟩
  · rw [h.2]
  · rw [hc]
    exact hcr

omit [LinearOrder α] in
lemma Climbs.head {x r : α} (h : f.Climbs (f.parent x) r) : f.Climbs x r :=
  ⟨h.1.head rfl, h.2⟩

lemma Climbs.le (hf : f.Valid) {x r : α} (h : f.Climbs x r) : r ≤ x := by
  obtain ⟨hr, -⟩ := h
  induction hr with
  | refl => exact le_rfl
  | @tail b c _ hbc ih => exact (hbc ▸ hf.parent_le b).trans ih

lemma Climbs.mem (hf : f.Valid) {x r : α} (h : f.Climbs x r) (hx : x ∈ f.nodes) :
    r ∈ f.nodes := by
  obtain ⟨hr, -⟩ := h
  induction hr with
  | refl => exact hx
  | @tail b c _ hbc ih => exact hbc ▸ hf.parent_mem b ih

/-- With fuel for every node below `x` the loop ends at the end of the chain. -/
lemma climbs_climb (hf : f.Valid) (n : ℕ) (x : α) (hx : x ∈ f.nodes)
    (hn : (f.nodes.toFinset.filter (· < x)).card ≤ n) : f.Climbs x (climb f.parent n x) := by
  induction n generalizing x with
  | zero =>
    refine ⟨.refl, ?_⟩
    by_contra hne
    have hlt := lt_of_le_of_ne (hf.parent_le x) hne
    have hmem : f.parent x ∈ f.nodes.toFinset.filter (· < x) := by
      simp [hf.parent_mem x hx, hlt]
    have := Finset.card_pos.mpr ⟨_, hmem⟩
    omega
  | succ n ih =>
    by_cases hfix : f.parent x = x
    · simp only [climb, hfix, if_true]
      exact ⟨.refl, hfix⟩
    · have hlt := lt_of_le_of_ne (hf.parent_le x) hfix
      simp only [climb, hfix, if_false]
      apply Climbs.head
      apply ih (f.parent x) (hf.parent_mem x hx)
      have hsub : f.nodes.toFinset.filter (· < f.parent x) ⊂
          f.nodes.toFinset.filter (· < x) := by
        rw [Finset.ssubset_iff_of_subset]
        · exact ⟨f.parent x, by simp [hf.parent_mem x hx, hlt], by simp⟩
        · intro y hy
          simp only [Finset.mem_filter] at hy ⊢
          exact ⟨hy.1, hy.2.trans hlt⟩
      have := Finset.card_lt_card hsub
      omega

theorem climbs_root (hf : f.Valid) {x : α} (hx : x ∈ f.nodes) : f.Climbs x (f.root x) := by
  apply climbs_climb hf _ x hx
  calc (f.nodes.toFinset.filter (· < x)).card ≤ f.nodes.toFinset.card := Finset.card_filter_le _ _
    _ ≤ f.nodes.length := List.toFinset_card_le _

lemma root_eq (hf : f.Valid) {x r : α} (hx : x ∈ f.nodes) (h : f.Climbs x r) : f.root x = r :=
  (climbs_root hf hx).unique h

lemma root_mem (hf : f.Valid) {x : α} (hx : x ∈ f.nodes) : f.root x ∈ f.nodes :=
  (climbs_root hf hx).mem hf hx

lemma root_le (hf : f.Valid) {x : α} (hx : x ∈ f.nodes) : f.root x ≤ x :=
  (climbs_root hf hx).le hf

lemma root_root (hf : f.Valid) {x : α} (hx : x ∈ f.nodes) : f.root (f.root x) = f.root x :=
  root_eq hf (root_mem hf hx) ⟨.refl, (climbs_root hf hx).2⟩

lemma root_parent (hf : f.Valid) {x : α} (hx : x ∈ f.nodes) : f.root (f.parent x) = f.root x :=
  root_eq hf (hf.parent_mem x hx) (climbs_root hf hx).parent

/-! ### Redirecting a pointer -/

@[simp] lemma setParent_nodes (x y : α) : (f.setParent x y).nodes = f.nodes := rfl

lemma setParent_self (x y : α) : (f.setParent x y).parent x = y := by
  simp [setParent]

lemma setParent_of_ne {x z : α} (y : α) (h : z ≠ x) : (f.setParent x y).parent z = f.parent z := by
  simp [setParent, h]

lemma Valid.setParent (hf : f.Valid) {x y : α} (hle : y ≤ x) (hy : y ∈ f.nodes) :
    (f.setParent x y).Valid := by
  constructor
  · intro z
    by_cases hz : z = x
    · subst hz
      rwa [setParent_self]
    · rw [setParent_of_ne y hz]
      exact hf.parent_le z
  · intro z hz
    by_cases hzx : z = x
    · subst hzx
      rwa [setParent_self]
    · rw [setParent_of_ne y hzx]
      exact hf.parent_mem z hz

/-- Pointing a node straight at its root moves no chain's end. -/
lemma Climbs.setParent_root {x r z w : α} (h : f.Climbs x r) (hz : f.Climbs z w) :
    (f.setParent z w).Climbs x r := by
  have hroot : (f.setParent z w).parent r = r := by
    by_cases hrz : r = z
    · subst hrz
      rw [setParent_self]
      exact hz.unique ⟨.refl, h.2⟩
    · rw [setParent_of_ne w hrz, h.2]
  obtain ⟨hr, hfix⟩ := h
  induction hr using ReflTransGen.head_induction_on with
  | refl => exact ⟨.refl, hroot⟩
  | @head a b hab hbr ih =>
    by_cases haz : a = z
    · subst haz
      have hw : w = r := hz.unique ⟨hbr.head hab, hfix⟩
      exact ⟨.single (by rw [setParent_self, hw]), hroot⟩
    · apply Climbs.head
      rw [setParent_of_ne w haz, hab]
      exact ih

lemma root_setParent_root (hf : f.Valid) {z x : α} (hz : z ∈ f.nodes) (hx : x ∈ f.nodes) :
    (f.setParent z (f.root z)).root x = f.root x :=
  root_eq (hf.setParent (root_le hf hz) (root_mem hf hz)) hx
    ((climbs_root hf hx).setParent_root (climbs_root hf hz))

/-- What compression keeps: the nodes, the validity and every root. -/
lemma compressLoop_spec (n : ℕ) (hf : f.Valid) {x : α} (hx : x ∈ f.nodes) :
    (compressLoop f (f.root x) n x).nodes = f.nodes ∧ (compressLoop f (f.root x) n x).Valid ∧
      ∀ y ∈ f.nodes, (compressLoop f (f.root x) n x).root y = f.root y := by
  induction n generalizing f x with
  | zero => exact ⟨rfl, hf, fun _ _ => rfl⟩
  | succ n ih =>
    by_cases hxr : x = f.root x
    · have : compressLoop f (f.root x) (n + 1) x = f := by
        rw [compressLoop, if_pos hxr]
      rw [this]
      exact ⟨rfl, hf, fun _ _ => rfl⟩
    · have hp := hf.parent_mem x hx
      have hroot : (f.setParent x (f.root x)).root (f.parent x) = f.root x := by
        rw [root_setParent_root hf hx hp, root_parent hf hx]
      have hnext := ih (hf.setParent (root_le hf hx) (root_mem hf hx)) hp
      rw [hroot] at hnext
      rw [compressLoop, if_neg hxr]
      refine ⟨hnext.1, hnext.2.1, fun y hy => ?_⟩
      rw [hnext.2.2 y hy, root_setParent_root hf hx hy]

section Compress

variable (hf : f.Valid) {x : α} (hx : x ∈ f.nodes)

include hf hx

lemma compress_nodes : (f.compress x).nodes = f.nodes := (compressLoop_spec _ hf hx).1

lemma Valid.compress : (f.compress x).Valid := (compressLoop_spec _ hf hx).2.1

lemma root_compress {y : α} (hy : y ∈ f.nodes) : (f.compress x).root y = f.root y :=
  (compressLoop_spec _ hf hx).2.2 y hy

end Compress

/-- Hanging one root below another renames it at the end of every chain. -/
lemma Climbs.setParent_link {x r a b : α} (h : f.Climbs x r) (ha : f.parent a = a)
    (hb : f.parent b = b) (hab : a ≠ b) :
    (f.setParent a b).Climbs x (if r = a then b else r) := by
  have hbfix : (f.setParent a b).parent b = b := by
    rw [setParent_of_ne b hab.symm, hb]
  obtain ⟨hr, hfix⟩ := h
  induction hr using ReflTransGen.head_induction_on with
  | refl =>
    by_cases hra : r = a
    · subst hra
      rw [if_pos rfl]
      exact ⟨.single (setParent_self _ _), hbfix⟩
    · rw [if_neg hra]
      exact ⟨.refl, by rw [setParent_of_ne b hra, hfix]⟩
  | @head c d hcd _ ih =>
    by_cases hca : c = a
    · subst hca
      rw [ha] at hcd
      subst hcd
      exact ih
    · apply Climbs.head
      rw [setParent_of_ne b hca, hcd]
      exact ih

lemma Valid.singletons (nodes : List α) : (Forest.singletons nodes).Valid :=
  ⟨fun _ => le_rfl, fun _ h => h⟩

lemma root_singletons {nodes : List α} {x : α} (hx : x ∈ nodes) :
    (singletons nodes).root x = x :=
  root_eq (Valid.singletons nodes) hx ⟨.refl, rfl⟩

/-! ### Connecting two nodes -/

section Connect

variable (hf : f.Valid) {left right : α} (hl : left ∈ f.nodes) (hr : right ∈ f.nodes)

include hf hl hr

/-- The specification of `connect`: the two roots become one and no other root moves. -/
theorem connect_spec :
    (f.connect left right).nodes = f.nodes ∧ (f.connect left right).Valid ∧
      ∀ x ∈ f.nodes, (f.connect left right).root x =
        if f.root x = max (f.root left) (f.root right) then min (f.root left) (f.root right)
        else f.root x := by
  have hn₁ := compress_nodes hf hl
  have hv₁ := hf.compress hl
  have hr₁ : right ∈ (f.compress left).nodes := by rwa [hn₁]
  have hn₂ := (compress_nodes hv₁ hr₁).trans hn₁
  have hv₂ := hv₁.compress hr₁
  have hroot : ∀ x ∈ f.nodes, ((f.compress left).compress right).root x = f.root x := by
    intro x hx
    rw [root_compress hv₁ hr₁ (by rwa [hn₁]), root_compress hf hl hx]
  have hb : (f.compress left).root right = f.root right := root_compress hf hl hr
  by_cases hab : f.root left = f.root right
  · have hc : f.connect left right = (f.compress left).compress right := by
      simp [connect, hb, hab]
    rw [hc]
    refine ⟨hn₂, hv₂, fun x hx => ?_⟩
    rw [hroot x hx, hab, max_self, min_self]
    split_ifs with h
    · exact h
    · rfl
  · have hc : f.connect left right = ((f.compress left).compress right).setParent
        (max (f.root left) (f.root right)) (min (f.root left) (f.root right)) := by
      simp [connect, hb, hab]
    have hfix : ∀ y ∈ f.nodes, ((f.compress left).compress right).parent (f.root y) = f.root y := by
      intro y hy
      rw [← hroot y hy]
      exact (climbs_root hv₂ (by rwa [hn₂])).2
    have hmem : ∀ y ∈ f.nodes, f.root y ∈ ((f.compress left).compress right).nodes := by
      intro y hy
      rw [hn₂]
      exact root_mem hf hy
    have hmax : ((f.compress left).compress right).parent (max (f.root left) (f.root right)) =
        max (f.root left) (f.root right) := by
      rcases max_choice (f.root left) (f.root right) with h | h <;> rw [h] <;> exact hfix _ ‹_›
    have hmin : ((f.compress left).compress right).parent (min (f.root left) (f.root right)) =
        min (f.root left) (f.root right) := by
      rcases min_choice (f.root left) (f.root right) with h | h <;> rw [h] <;> exact hfix _ ‹_›
    have hminmem : min (f.root left) (f.root right) ∈ ((f.compress left).compress right).nodes := by
      rcases min_choice (f.root left) (f.root right) with h | h <;> rw [h] <;> exact hmem _ ‹_›
    have hne : max (f.root left) (f.root right) ≠ min (f.root left) (f.root right) :=
      (min_lt_max.mpr hab).ne'
    have hv₃ := hv₂.setParent min_le_max hminmem
    rw [hc]
    refine ⟨hn₂, hv₃, fun x hx => ?_⟩
    have hx₂ : x ∈ ((f.compress left).compress right).nodes := by rwa [hn₂]
    have hclimb := (climbs_root hv₂ hx₂).setParent_link hmax hmin hne
    rw [hroot x hx] at hclimb
    exact root_eq hv₃ hx₂ hclimb

lemma connect_nodes : (f.connect left right).nodes = f.nodes := (connect_spec hf hl hr).1

lemma Valid.connect : (f.connect left right).Valid := (connect_spec hf hl hr).2.1

/-- Connecting merges two classes. -/
lemma root_connect_eq_iff {x y : α} (hx : x ∈ f.nodes) (hy : y ∈ f.nodes) :
    (f.connect left right).root x = (f.connect left right).root y ↔
      f.root x = f.root y ∨
        f.root x = f.root left ∧ f.root y = f.root right ∨
          f.root x = f.root right ∧ f.root y = f.root left := by
  obtain ⟨-, -, hroot⟩ := connect_spec hf hl hr
  rw [hroot x hx, hroot y hy]
  rcases le_total (f.root left) (f.root right) with h | h
  · rw [max_eq_right h, min_eq_left h]
    split_ifs <;> grind
  · rw [max_eq_left h, min_eq_right h]
    split_ifs <;> grind

end Connect

/-! ### Connecting many pairs -/

def connectAll (f : Forest α) (pairs : List (α × α)) : Forest α :=
  pairs.foldl (fun g p => g.connect p.1 p.2) f

omit [LinearOrder α] in
/-- One more generating pair joins at most two classes. -/
lemma eqvGen_concat {pairs : List (α × α)} {l r x y : α} :
    EqvGen (fun a b => (a, b) ∈ pairs ++ [(l, r)]) x y ↔
      EqvGen (fun a b => (a, b) ∈ pairs) x y ∨
        EqvGen (fun a b => (a, b) ∈ pairs) x l ∧ EqvGen (fun a b => (a, b) ∈ pairs) y r ∨
          EqvGen (fun a b => (a, b) ∈ pairs) x r ∧ EqvGen (fun a b => (a, b) ∈ pairs) y l := by
  have hmono : ∀ a b, EqvGen (fun a b => (a, b) ∈ pairs) a b →
      EqvGen (fun a b => (a, b) ∈ pairs ++ [(l, r)]) a b :=
    EqvGen.mono fun _ _ h => List.mem_append_left _ h
  have hpair : EqvGen (fun a b => (a, b) ∈ pairs ++ [(l, r)]) l r :=
    .rel _ _ (List.mem_append_right _ (List.mem_singleton_self _))
  constructor
  · intro h
    induction h with
    | rel a b hab =>
      rcases List.mem_append.mp hab with hab | hab
      · exact .inl (.rel _ _ hab)
      · simp only [List.mem_singleton, Prod.mk.injEq] at hab
        obtain ⟨rfl, rfl⟩ := hab
        exact .inr (.inl ⟨.refl _, .refl _⟩)
    | refl a => exact .inl (.refl a)
    | symm a b _ ih =>
      rcases ih with h | ⟨h, h'⟩ | ⟨h, h'⟩
      · exact .inl h.symm
      · exact .inr (.inr ⟨h', h⟩)
      · exact .inr (.inl ⟨h', h⟩)
    | trans a b c _ _ ih ih' =>
      rcases ih with h | ⟨hal, hbr⟩ | ⟨har, hbl⟩ <;>
        rcases ih' with k | ⟨kbl, kcr⟩ | ⟨kbr, kcl⟩
      · exact .inl (h.trans _ _ _ k)
      · exact .inr (.inl ⟨h.trans _ _ _ kbl, kcr⟩)
      · exact .inr (.inr ⟨h.trans _ _ _ kbr, kcl⟩)
      · exact .inr (.inl ⟨hal, k.symm.trans _ _ _ hbr⟩)
      · exact .inr (.inl ⟨hal, kcr⟩)
      · exact .inl (hal.trans _ _ _ kcl.symm)
      · exact .inr (.inr ⟨har, k.symm.trans _ _ _ hbl⟩)
      · exact .inl (har.trans _ _ _ kcr.symm)
      · exact .inr (.inr ⟨har, kcl⟩)
  · rintro (h | ⟨hx, hy⟩ | ⟨hx, hy⟩)
    · exact hmono _ _ h
    · exact (hmono _ _ hx).trans _ _ _ (hpair.trans _ _ _ (hmono _ _ hy).symm)
    · exact (hmono _ _ hx).trans _ _ _ (hpair.symm.trans _ _ _ (hmono _ _ hy).symm)

/-- After connecting pairs of separate nodes, two nodes share a root exactly when the
pairs generate their equivalence. -/
theorem connectAll_spec (nodes : List α) (pairs : List (α × α))
    (hp : ∀ p ∈ pairs, p.1 ∈ nodes ∧ p.2 ∈ nodes) :
    ((singletons nodes).connectAll pairs).nodes = nodes ∧
      ((singletons nodes).connectAll pairs).Valid ∧
        ∀ x ∈ nodes, ∀ y ∈ nodes,
          (((singletons nodes).connectAll pairs).root x =
            ((singletons nodes).connectAll pairs).root y ↔
              EqvGen (fun a b => (a, b) ∈ pairs) x y) := by
  induction pairs using List.reverseRecOn with
  | nil =>
    refine ⟨rfl, Valid.singletons nodes, fun x hx y hy => ?_⟩
    have hroot : ∀ z ∈ nodes, ((singletons nodes).connectAll []).root z = z :=
      fun z hz => root_singletons hz
    have heq : ∀ a b, EqvGen (fun a b => (a, b) ∈ ([] : List (α × α))) a b → a = b := by
      intro a b h
      induction h with
      | rel _ _ h => simp at h
      | refl => rfl
      | symm _ _ _ ih => exact ih.symm
      | trans _ _ _ _ _ ih ih' => exact ih.trans ih'
    rw [hroot x hx, hroot y hy]
    constructor
    · rintro rfl
      exact .refl x
    · exact heq x y
  | append_singleton pairs p ih =>
    obtain ⟨hn, hv, hiff⟩ := ih fun q hq => hp q (List.mem_append_left _ hq)
    obtain ⟨hl, hr⟩ := hp p (List.mem_append_right _ (List.mem_singleton_self p))
    have hl' : p.1 ∈ ((singletons nodes).connectAll pairs).nodes := by rwa [hn]
    have hr' : p.2 ∈ ((singletons nodes).connectAll pairs).nodes := by rwa [hn]
    have hstep : (singletons nodes).connectAll (pairs ++ [p]) =
        ((singletons nodes).connectAll pairs).connect p.1 p.2 := by
      simp [connectAll]
    rw [hstep]
    refine ⟨(connect_nodes hv hl' hr').trans hn, hv.connect hl' hr', fun x hx y hy => ?_⟩
    rw [root_connect_eq_iff hv hl' hr' (by rwa [hn]) (by rwa [hn]), hiff x hx y hy,
      hiff x hx _ hl, hiff x hx _ hr, hiff y hy _ hl, hiff y hy _ hr]
    exact eqvGen_concat.symm

/-! ### Groups -/

lemma exists_of_mem_groups {g : List α} (hg : g ∈ f.groups) :
    ∃ x ∈ f.nodes, ∀ y, y ∈ g ↔ y ∈ f.nodes ∧ f.root y = f.root x := by
  simp only [groups, List.mem_map, List.mem_dedup] at hg
  obtain ⟨_, ⟨x, hx, rfl⟩, rfl⟩ := hg
  exact ⟨x, hx, fun y => by simp⟩

lemma exists_group_of_mem {x : α} (hx : x ∈ f.nodes) : ∃ g ∈ f.groups, x ∈ g := by
  refine ⟨f.nodes.filter (f.root · = f.root x), ?_, by simp [hx]⟩
  simp only [groups, List.mem_map, List.mem_dedup]
  exact ⟨_, ⟨x, hx, rfl⟩, rfl⟩

lemma nodup_of_mem_groups (hn : f.nodes.Nodup) {g : List α} (hg : g ∈ f.groups) : g.Nodup := by
  simp only [groups, List.mem_map] at hg
  obtain ⟨_, -, rfl⟩ := hg
  exact hn.filter _

lemma pairwise_disjoint_groups : f.groups.Pairwise List.Disjoint := by
  unfold groups
  rw [List.pairwise_map]
  refine (List.nodup_dedup _).imp fun hne x hx hy => hne ?_
  rw [← of_decide_eq_true (List.mem_filter.mp hx).2, of_decide_eq_true (List.mem_filter.mp hy).2]

end Forest

end AgentRemote.Library
