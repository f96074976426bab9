import AgentRemote.Prune.Unambiguous

/-!
# A confirmation matches one plan

Equal values have equal codes as long as no dictionary has two keys with one code. With the
reading of `Prune.Unambiguous` the code is a name for the value, and so is the digest up to
a collision of the hash function.
-/

namespace AgentRemote.Prune
open Library Rendering

/-! ### Equal values have equal codes -/

/-- Every value that is the same has the same code. -/
def CodeFixed (a : PlanValue) : Prop :=
  a.KeysApart → ∀ b x y, encode a = .ok x → encode b = .ok y → a.Same b → x = y

lemma items_codes_eq {xs ys : List PlanValue} {cx cy : List (List ℕ)}
    (ih : ∀ x ∈ xs, CodeFixed x) (hapart : ∀ x ∈ xs, x.KeysApart)
    (hsame : List.Forall₂ PlanValue.Same xs ys)
    (hx : List.Forall₂ (fun item code => encode item = .ok code) xs cx)
    (hy : List.Forall₂ (fun item code => encode item = .ok code) ys cy) : cx = cy := by
  rw [← List.forall₂_eq_eq_eq]
  apply forall₂_image _ hsame hx hy
  intro x hxm y _ c d hxy hxc hyd
  exact ih x hxm (hapart x hxm) y c d hxc hyd hxy

/-- The codes of a member's key and value. -/
def CodedMember.pair (member : CodedMember) : List ℕ × List ℕ := (member.keyCode, member.valueCode)

lemma map_code {cm : List CodedMember} :
    cm.map CodedMember.code = (cm.map CodedMember.pair).map fun p => p.1 ++ p.2 := by
  rw [List.map_map]
  rfl

section

variable {ms ns ks : List (PlanValue × PlanValue)} {cm cn ck dm dn : List CodedMember}

lemma members_pairs_eq (ih : ∀ m ∈ ms, CodeFixed m.1 ∧ CodeFixed m.2)
    (hkey : ∀ m ∈ ms, m.1.KeysApart) (hvalue : ∀ m ∈ ms, m.2.KeysApart)
    (hsame : List.Forall₂ (fun m k => m.1.Same k.1 ∧ m.2.Same k.2) ms ks)
    (hm : List.Forall₂ Codes ms cm) (hk : List.Forall₂ Codes ks ck) :
    cm.map CodedMember.pair = ck.map CodedMember.pair := by
  rw [← List.forall₂_eq_eq_eq, List.forall₂_map_left_iff, List.forall₂_map_right_iff]
  apply forall₂_image _ hsame hm hk
  intro m hmm k _ c d hmk hmc hkd
  exact Prod.ext ((ih m hmm).1 (hkey m hmm) k.1 _ _ hmc.keyCode hkd.keyCode hmk.1)
    ((ih m hmm).2 (hvalue m hmm) k.2 _ _ hmc.valueCode hkd.valueCode hmk.2)

/-- Keys that are not the same have different codes. -/
lemma keyCodes_nodup (hapart : ms.Pairwise fun m n => ¬m.1.Same n.1)
    (hm : List.Forall₂ Codes ms cm) : (cm.map CodedMember.keyCode).Nodup := by
  induction hm with
  | nil => exact List.nodup_nil
  | cons hmc hrest ih =>
    have hcons := List.pairwise_cons.mp hapart
    rw [List.map_cons, List.nodup_cons]
    refine ⟨?_, ih hcons.2⟩
    intro hmem
    obtain ⟨d, hd, hcode⟩ := List.mem_map.mp hmem
    obtain ⟨n, hn, hnd⟩ := exists_of_mem_right hrest hd
    apply hcons.1 n hn
    exact (readsOff _).same hmc.keyCode (hcode ▸ hnd.keyCode)

/-- The order of the members does not show once they are sorted. -/
lemma sorted_pairs_eq (hnodup : (cm.map CodedMember.keyCode).Nodup)
    (hdm : stableSort memberLess cm = .ok dm) (hdn : stableSort memberLess cn = .ok dn)
    (hperm : (cm.map CodedMember.pair).Perm (cn.map CodedMember.pair)) :
    dm.map CodedMember.pair = dn.map CodedMember.pair := by
  obtain ⟨hpm, hsm⟩ := stableSort_eq_ok memberLess_follows hdm
  obtain ⟨hpn, hsn⟩ := stableSort_eq_ok memberLess_follows hdn
  have hall : (dm.map CodedMember.pair).Perm (dn.map CodedMember.pair) :=
    ((hpm.map _).trans hperm).trans (hpn.map _).symm
  have hdistinct : ((dm.map CodedMember.pair).map Prod.fst).Nodup := by
    rw [List.map_map]
    exact ((hpm.map CodedMember.keyCode).nodup_iff).mpr hnodup
  have hsorted : ∀ {d : List CodedMember}, (d.Pairwise fun a b => a.keyCode ≤ b.keyCode) →
      (d.map CodedMember.pair).Pairwise fun p q => p.1 ≤ q.1 := by
    intro d hd
    rw [List.pairwise_map]
    exact hd
  refine List.Perm.eq_of_pairwise ?_ (hsorted hsm) (hsorted hsn) hall
  intro p q hp hq hpq hqp
  exact List.inj_on_of_nodup_map hdistinct hp (hall.mem_iff.mpr hq) (le_antisymm hpq hqp)

lemma codeFixed_dict (members : List (PlanValue × PlanValue))
    (ih : ∀ m ∈ members, CodeFixed m.1 ∧ CodeFixed m.2) : CodeFixed (.dict members) := by
  intro hkeys b x y ha hb hsame
  cases hsame with
  | dict hkey hvalue hperm =>
    rename_i ns ks
    cases hkeys with
    | dict hk hv hapart =>
      simp only [encode, bind_eq_ok, pure_eq_ok, Except.ok.injEq, encodeMembers_eq_ok] at ha hb
      obtain ⟨cm, hm, dm, hdm, rfl⟩ := ha
      obtain ⟨cn, hn, dn, hdn, rfl⟩ := hb
      rw [List.forall₂_map_left_iff, List.forall₂_map_right_iff] at hkey hvalue
      have hsame := forall₂_and hkey hvalue
      have hflip : List.Forall₂ (flip Codes) cn ns := List.Forall₂.flip hn
      obtain ⟨ck, hpk, hck⟩ := exists_perm_left hflip hperm
      have hpairs := members_pairs_eq ih hk hv hsame hm hck.flip
      have hsorted := sorted_pairs_eq (keyCodes_nodup hapart hm) hdm hdn
        (hpairs ▸ hpk.map CodedMember.pair)
      rw [map_code, map_code, hsorted]
      have hlength : members.length = ns.length := by
        rw [hsame.length_eq, hperm.length_eq]
      rw [hlength]

end

lemma codeFixed_set (frozen : Bool) (items : List PlanValue) (ih : ∀ x ∈ items, CodeFixed x) :
    CodeFixed (.set frozen items) := by
  intro hkeys b x y ha hb hsame
  cases hsame with
  | set hzs hperm =>
    cases hkeys with
    | set hitems =>
      simp only [encode, bind_eq_ok, pure_eq_ok, Except.ok.injEq, encodeItems_eq_ok] at ha hb
      obtain ⟨cx, hx, rfl⟩ := ha
      obtain ⟨cy, hy, rfl⟩ := hb
      have hflip := List.Forall₂.flip (R := flip fun item code => encode item = .ok code) hy
      obtain ⟨cz, hpz, hcz⟩ := exists_perm_left hflip hperm
      have hcodes := items_codes_eq ih hitems hzs hx hcz.flip
      subst hcodes
      have hsorted : cx.insertionSort (· ≤ ·) = cy.insertionSort (· ≤ ·) := by
        apply List.Perm.eq_of_pairwise (fun _ _ _ _ => le_antisymm)
          (List.pairwise_insertionSort _ cx) (List.pairwise_insertionSort _ cy)
        exact ((List.perm_insertionSort _ cx).trans hpz).trans (List.perm_insertionSort _ cy).symm
      rw [hsorted, hzs.length_eq, hperm.length_eq]

lemma codeFixed_record (name : Text) (ordered : Bool) (fields : List (Text × PlanValue))
    (ih : ∀ f ∈ fields, CodeFixed f.2) : CodeFixed (.record name ordered fields) := by
  intro hkeys b x y ha hb hsame
  cases hsame with
  | record hnames hvalues =>
    cases hkeys with
    | record hfields =>
      simp only [encode, bind_eq_ok, pure_eq_ok, Except.ok.injEq, encodeFields_eq_ok] at ha hb
      obtain ⟨cf, hf, rfl⟩ := ha
      obtain ⟨cg, hg, rfl⟩ := hb
      rw [← List.forall₂_eq_eq_eq, List.forall₂_map_left_iff, List.forall₂_map_right_iff] at hnames
      rw [List.forall₂_map_left_iff, List.forall₂_map_right_iff] at hvalues
      have hcodes : cf = cg := by
        rw [← List.forall₂_eq_eq_eq]
        apply forall₂_image _ (forall₂_and hnames hvalues) hf hg
        rintro f hfm g _ _ _ ⟨hname, hvalue⟩ ⟨rest, hrest, rfl⟩ ⟨rest', hrest', rfl⟩
        rw [hname, ih f hfm (hfields f hfm) g.2 rest rest' hrest hrest' hvalue]
      rw [hcodes, hvalues.length_eq]

/-- Values that are the same have the same code, where no dictionary has two keys that are. -/
theorem codeFixed (value : PlanValue) : CodeFixed value := by
  apply value.induct
  case set => exact codeFixed_set
  case dict => exact codeFixed_dict
  case record => exact codeFixed_record
  case tuple =>
    intro items ih hkeys b x y ha hb hsame
    cases hsame with
    | tuple hitems =>
      cases hkeys with
      | tuple hapart =>
        simp only [encode, bind_eq_ok, pure_eq_ok, Except.ok.injEq, encodeItems_eq_ok] at ha hb
        obtain ⟨cx, hx, rfl⟩ := ha
        obtain ⟨cy, hy, rfl⟩ := hb
        rw [items_codes_eq ih hapart hitems hx hy, hitems.length_eq]
  case list =>
    intro items ih hkeys b x y ha hb hsame
    cases hsame with
    | list hitems =>
      cases hkeys with
      | list hapart =>
        simp only [encode, bind_eq_ok, pure_eq_ok, Except.ok.injEq, encodeItems_eq_ok] at ha hb
        obtain ⟨cx, hx, rfl⟩ := ha
        obtain ⟨cy, hy, rfl⟩ := hb
        rw [items_codes_eq ih hapart hitems hx hy, hitems.length_eq]
  case datetime =>
    intro d _ b x y ha hb hsame
    cases hsame with
    | datetime hinstant =>
      simp only [encode, bind_eq_ok, pure_eq_ok, Except.ok.injEq] at ha hb
      obtain ⟨clock, ha, rfl⟩ := ha
      obtain ⟨clock', hb, rfl⟩ := hb
      have hclock : clock = clock' := by
        have := instant_of_utc ha
        have := instant_of_utc hb
        omega
      rw [hclock]
  case none =>
    intro _ b x y ha hb hsame
    cases hsame
    exact Except.ok.inj (ha.symm.trans hb)
  all_goals
    intro _ _ b x y ha hb hsame
    cases hsame
    exact Except.ok.inj (ha.symm.trans hb)

/-! ### The guarantee -/

/-- The code of a value determines it, up to the tag and the order of sets, the order of
dictionaries and the zone of points in time, and no code starts another. -/
theorem encode_unambiguous {a b : PlanValue} {x y : List ℕ} (ha : encode a = .ok x)
    (hb : encode b = .ok y) :
    (x = y → a.Same b) ∧ (a.KeysApart → (x = y ↔ a.Same b)) ∧ (x <+: y → x = y) ∧
      ∀ [Sha256], digest a = digest b → a.Same b ∨
        x ≠ y ∧ Sha256.hexdigest (digestDomain ++ x) = Sha256.hexdigest (digestDomain ++ y) := by
  have hsame : x = y → a.Same b := by
    rintro rfl
    exact (readsOff a).same ha hb
  refine ⟨hsame, fun hkeys => ⟨hsame, codeFixed a hkeys b x y ha hb⟩, ?_, ?_⟩
  · rintro ⟨rest, hrest⟩
    exact (readsOff a b x y rest [] ha hb (by rw [hrest, List.append_nil])).1
  · intro _ hdigest
    simp only [digest, ha, hb, ok_bind, pure_eq_ok, Except.ok.injEq] at hdigest
    by_cases hxy : x = y
    · exact Or.inl (hsame hxy)
    · exact Or.inr ⟨hxy, hdigest⟩

/-- A set and a frozen set of the same items in two orders have one code. -/
theorem encode_unambiguous_sets :
    (encode (.tuple [.set true [.int 1, .str ['x']], .none])).toOption.getD [] =
      (encode (.tuple [.set false [.str ['x'], .int 1], .none])).toOption.getD [] := by
  have hapart : (PlanValue.tuple [.set true [.int 1, .str ['x']], .none]).KeysApart := by
    apply PlanValue.KeysApart.tuple
    simp only [List.forall_mem_cons, List.not_mem_nil, false_implies, implies_true, and_true]
    refine ⟨PlanValue.KeysApart.set ?_, PlanValue.KeysApart.none⟩
    simp only [List.forall_mem_cons, List.not_mem_nil, false_implies, implies_true, and_true]
    exact ⟨PlanValue.KeysApart.int 1, PlanValue.KeysApart.str ['x']⟩
  have hset : (PlanValue.set true [.int 1, .str ['x']]).Same
      (.set false [.str ['x'], .int 1]) := by
    refine PlanValue.Same.set ?_ (List.Perm.swap _ _ [])
    exact List.forall₂_cons.mpr ⟨PlanValue.Same.int 1,
      List.forall₂_cons.mpr ⟨PlanValue.Same.str ['x'], List.Forall₂.nil⟩⟩
  have hunambiguous := encode_unambiguous
    (eq_ok_getD (x := encode (.tuple [.set true [.int 1, .str ['x']], .none]))
      (by decide +kernel) [])
    (eq_ok_getD (x := encode (.tuple [.set false [.str ['x'], .int 1], .none]))
      (by decide +kernel) [])
  exact (hunambiguous.2.1 hapart).mpr (PlanValue.Same.tuple
    (List.forall₂_cons.mpr ⟨hset, List.forall₂_cons.mpr ⟨PlanValue.Same.none, List.Forall₂.nil⟩⟩))

/-- A dictionary with the keys `frozenset({t})` and `frozenset({t.replace(tzinfo=UTC)})`. -/
def zonedKeys (first second : ℤ) : List (PlanValue × PlanValue) :=
  [(.set true [.datetime ⟨0, none⟩], .int first), (.set true [.datetime ⟨0, some 0⟩], .int second)]

/-- Two insertion orders of one dictionary have different codes. -/
theorem insertion_order_shows :
    ∃ a b : PlanValue, a.Same b ∧ (encode a).toOption.isSome ∧ (encode b).toOption.isSome ∧
      (encode a).toOption ≠ (encode b).toOption := by
  refine ⟨.dict (zonedKeys 1 2), .dict (zonedKeys 1 2).reverse, ?_, by decide +kernel,
    by decide +kernel, by decide +kernel⟩
  have hkeys : ∀ o : Option ℤ, (PlanValue.set true [.datetime ⟨0, o⟩]).Same
      (.set true [.datetime ⟨0, o⟩]) := by
    intro o
    exact PlanValue.Same.set (List.forall₂_cons.mpr ⟨PlanValue.Same.datetime rfl, List.Forall₂.nil⟩)
      (List.Perm.refl _)
  refine PlanValue.Same.dict ?_ ?_ (List.reverse_perm (zonedKeys 1 2)).symm
  · exact List.forall₂_cons.mpr ⟨hkeys _, List.forall₂_cons.mpr ⟨hkeys _, List.Forall₂.nil⟩⟩
  · exact List.forall₂_cons.mpr ⟨PlanValue.Same.int _,
      List.forall₂_cons.mpr ⟨PlanValue.Same.int _, List.Forall₂.nil⟩⟩

end AgentRemote.Prune
