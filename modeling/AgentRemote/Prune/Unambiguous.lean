import AgentRemote.Prune.Encoding

/-!
# The encoding of a plan is unambiguous

The code of a value can be read off the front of any text, which gives the value up to the
order of its sets and dictionaries. The other way round, equal values have equal codes as
long as no dictionary has two keys with one code: such keys are sorted as they come.
-/

namespace AgentRemote.Prune
open Library Rendering

/-- Induction over the items, members and fields of a value. -/
theorem PlanValue.induct {P : PlanValue → Prop} (none : P .none) (bool : ∀ b, P (.bool b))
    (int : ∀ n, P (.int n)) (str : ∀ s, P (.str s)) (uuid : ∀ u, P (.uuid u))
    (datetime : ∀ d, P (.datetime d)) (tuple : ∀ items, (∀ x ∈ items, P x) → P (.tuple items))
    (list : ∀ items, (∀ x ∈ items, P x) → P (.list items))
    (set : ∀ frozen items, (∀ x ∈ items, P x) → P (.set frozen items))
    (dict : ∀ members, (∀ m ∈ members, P m.1 ∧ P m.2) → P (.dict members))
    (record : ∀ name ordered fields, (∀ f ∈ fields, P f.2) → P (.record name ordered fields))
    (value : PlanValue) : P value :=
  @PlanValue.rec P (fun xs => ∀ x ∈ xs, P x) (fun ms => ∀ m ∈ ms, P m.1 ∧ P m.2)
    (fun fs => ∀ f ∈ fs, P f.2) (fun m => P m.1 ∧ P m.2) (fun f => P f.2)
    none bool int str uuid datetime tuple list set dict record
    (fun _ h => by simp at h) (fun _ _ hx hxs => List.forall_mem_cons.mpr ⟨hx, hxs⟩)
    (fun _ h => by simp at h) (fun _ _ hm hms => List.forall_mem_cons.mpr ⟨hm, hms⟩)
    (fun _ h => by simp at h) (fun _ _ hf hfs => List.forall_mem_cons.mpr ⟨hf, hfs⟩)
    (fun _ _ hk hv => ⟨hk, hv⟩) (fun _ _ hv => hv) value

/-! ### The tag of a value -/

def PlanValue.tag : PlanValue → Char
  | .none => 'n'
  | .bool true => 't'
  | .bool false => 'f'
  | .int _ => 'i'
  | .str _ => 's'
  | .uuid _ => 'u'
  | .datetime _ => 'd'
  | .tuple _ => 'q'
  | .list _ => 'l'
  | .set .. => 'e'
  | .dict _ => 'm'
  | .record .. => 'c'

lemma exists_tag {value : PlanValue} {code : List ℕ} (h : encode value = .ok code) :
    ∃ rest, code = value.tag.toNat :: rest := by
  cases value with
  | bool b => cases b <;> exact ⟨[], (Except.ok.inj h).symm⟩
  | none => exact ⟨[], (Except.ok.inj h).symm⟩
  | str s => exact ⟨_, (Except.ok.inj h).symm⟩
  | uuid u => exact ⟨_, (Except.ok.inj h).symm⟩
  | int n =>
    simp only [encode, bind_eq_ok, pure_eq_ok, Except.ok.injEq] at h
    obtain ⟨_, -, rfl⟩ := h
    exact ⟨_, rfl⟩
  | datetime d =>
    simp only [encode, bind_eq_ok, pure_eq_ok, Except.ok.injEq] at h
    obtain ⟨_, -, rfl⟩ := h
    exact ⟨_, rfl⟩
  | tuple items =>
    simp only [encode, bind_eq_ok, pure_eq_ok, Except.ok.injEq] at h
    obtain ⟨_, -, rfl⟩ := h
    exact ⟨_, rfl⟩
  | list items =>
    simp only [encode, bind_eq_ok, pure_eq_ok, Except.ok.injEq] at h
    obtain ⟨_, -, rfl⟩ := h
    exact ⟨_, rfl⟩
  | set frozen items =>
    simp only [encode, bind_eq_ok, pure_eq_ok, Except.ok.injEq] at h
    obtain ⟨_, -, rfl⟩ := h
    exact ⟨_, rfl⟩
  | dict members =>
    simp only [encode, bind_eq_ok, pure_eq_ok, Except.ok.injEq] at h
    obtain ⟨_, -, _, -, rfl⟩ := h
    exact ⟨_, rfl⟩
  | record name ordered fields =>
    simp only [encode, bind_eq_ok, pure_eq_ok, Except.ok.injEq] at h
    obtain ⟨_, -, rfl⟩ := h
    exact ⟨_, rfl⟩

lemma tag_eq {a b : PlanValue} {x y s t : List ℕ} (ha : encode a = .ok x) (hb : encode b = .ok y)
    (h : x ++ s = y ++ t) : a.tag = b.tag := by
  obtain ⟨_, rfl⟩ := exists_tag ha
  obtain ⟨_, rfl⟩ := exists_tag hb
  exact Char.toNat_inj.mp (List.cons.inj h).1

/-! ### Reading a value off the front -/

/-- The code of the value is read off the front of a text, and only values that are the same
have it. -/
def ReadsOff (a : PlanValue) : Prop :=
  ∀ b x y s t, encode a = .ok x → encode b = .ok y → x ++ s = y ++ t → x = y ∧ a.Same b

lemma ReadsOff.same {a b : PlanValue} {x : List ℕ} (h : ReadsOff a) (ha : encode a = .ok x)
    (hb : encode b = .ok x) : a.Same b := (h b x x [] [] ha hb rfl).2

section

variable {xs ys : List PlanValue} {cx cy dx dy : List (List ℕ)} {s t : List ℕ}

/-- Rows of as many codes are read off the front together. -/
lemma items_append_inj (hread : ∀ x ∈ xs, ReadsOff x)
    (hx : List.Forall₂ (fun item code => encode item = .ok code) xs cx)
    (hy : List.Forall₂ (fun item code => encode item = .ok code) ys cy)
    (hdx : dx.Perm cx) (hdy : dy.Perm cy) (hlength : xs.length = ys.length)
    (h : dx.flatten ++ s = dy.flatten ++ t) : dx = dy ∧ s = t := by
  apply flatten_append_inj _ _ h
  · rw [hdx.length_eq, hdy.length_eq, ← hx.length_eq, ← hy.length_eq, hlength]
  · intro c hc d hd s t hst
    obtain ⟨x, hxm, hxc⟩ := exists_of_mem_right hx (hdx.mem_iff.mp hc)
    obtain ⟨y, -, hyd⟩ := exists_of_mem_right hy (hdy.mem_iff.mp hd)
    exact (hread x hxm y c d s t hxc hyd hst).1

/-- Items with one row of codes are the same one by one. -/
lemma same_of_codes_eq (hread : ∀ x ∈ xs, ReadsOff x)
    (hx : List.Forall₂ (fun item code => encode item = .ok code) xs cx)
    (hy : List.Forall₂ (fun item code => encode item = .ok code) ys cx) :
    List.Forall₂ PlanValue.Same xs ys := by
  apply forall₂_of_common _ hx hy
  intro x hxm y _ c hxc hyc
  exact (hread x hxm).same hxc hyc

end

section

variable {ms ns : List (PlanValue × PlanValue)} {cm cn dm dn : List CodedMember} {s t : List ℕ}

lemma Codes.append_inj {m n : PlanValue × PlanValue} {c d : CodedMember}
    (hread : ReadsOff m.1 ∧ ReadsOff m.2) (hc : Codes m c) (hd : Codes n d)
    (h : c.code ++ s = d.code ++ t) :
    c.keyCode = d.keyCode ∧ c.valueCode = d.valueCode := by
  unfold CodedMember.code at h
  rw [List.append_assoc, List.append_assoc] at h
  have hkey := (hread.1 n.1 _ _ _ _ hc.keyCode hd.keyCode h).1
  rw [hkey, List.append_cancel_left_eq] at h
  exact ⟨hkey, (hread.2 n.2 _ _ _ _ hc.valueCode hd.valueCode h).1⟩

/-- Two members with one code are the same. -/
lemma Codes.same {m n : PlanValue × PlanValue} {c d : CodedMember}
    (hread : ReadsOff m.1 ∧ ReadsOff m.2) (hc : Codes m c) (hd : Codes n d)
    (h : c.code = d.code) : m.1.Same n.1 ∧ m.2.Same n.2 := by
  have hcodes := hc.append_inj (s := []) (t := []) hread hd (by rw [h])
  exact ⟨hread.1.same (hcodes.1 ▸ hc.keyCode) hd.keyCode,
    hread.2.same (hcodes.2 ▸ hc.valueCode) hd.valueCode⟩

lemma members_append_inj (hread : ∀ m ∈ ms, ReadsOff m.1 ∧ ReadsOff m.2)
    (hm : List.Forall₂ Codes ms cm) (hn : List.Forall₂ Codes ns cn)
    (hdm : dm.Perm cm) (hdn : dn.Perm cn) (hlength : ms.length = ns.length)
    (h : (dm.map CodedMember.code).flatten ++ s = (dn.map CodedMember.code).flatten ++ t) :
    dm.map CodedMember.code = dn.map CodedMember.code ∧ s = t := by
  apply flatten_append_inj _ _ h
  · rw [List.length_map, List.length_map, hdm.length_eq, hdn.length_eq, ← hm.length_eq,
      ← hn.length_eq, hlength]
  · intro x hx y hy s t hst
    obtain ⟨c, hc, rfl⟩ := List.mem_map.mp hx
    obtain ⟨d, hd, rfl⟩ := List.mem_map.mp hy
    obtain ⟨m, hmm, hmc⟩ := exists_of_mem_right hm (hdm.mem_iff.mp hc)
    obtain ⟨n, -, hnd⟩ := exists_of_mem_right hn (hdn.mem_iff.mp hd)
    have hcodes := hmc.append_inj (hread m hmm) hnd hst
    rw [CodedMember.code, CodedMember.code, hcodes.1, hcodes.2]

/-- Dictionaries with the same codes of members have the same members. -/
lemma same_of_memberCodes_perm (hread : ∀ m ∈ ms, ReadsOff m.1 ∧ ReadsOff m.2)
    (hm : List.Forall₂ Codes ms cm) (hn : List.Forall₂ Codes ns cn)
    (h : (cm.map CodedMember.code).Perm (cn.map CodedMember.code)) :
    ∃ ks, ks.Perm ns ∧ List.Forall₂ (fun m k => m.1.Same k.1 ∧ m.2.Same k.2) ms ks := by
  have hcode : ∀ {rs : List (PlanValue × PlanValue)} {cs : List CodedMember},
      List.Forall₂ Codes rs cs → List.Forall₂ (fun m x => ∃ c, Codes m c ∧ x = c.code) rs
        (cs.map CodedMember.code) := by
    intro rs cs hrs
    rw [List.forall₂_map_right_iff]
    exact hrs.imp fun m c hmc => ⟨c, hmc, rfl⟩
  obtain ⟨ks, hks, hkc⟩ := exists_perm_left (hcode hn) h
  refine ⟨ks, hks, ?_⟩
  apply forall₂_of_common _ (hcode hm) hkc
  rintro m hmm k - x ⟨c, hmc, rfl⟩ ⟨d, hkd, hd⟩
  exact hmc.same (hread m hmm) hkd hd

end

/-! ### Every value is read off the front -/

lemma readsOff_none : ReadsOff .none := by
  intro b x y s t ha hb h
  have htag := tag_eq ha hb h
  cases b with
  | none =>
    cases ha
    cases hb
    exact ⟨rfl, PlanValue.Same.none⟩
  | bool c => cases c <;> simp [PlanValue.tag] at htag
  | _ => simp [PlanValue.tag] at htag

lemma readsOff_bool (a : Bool) : ReadsOff (.bool a) := by
  intro b x y s t ha hb h
  have htag := tag_eq ha hb h
  cases b with
  | bool c =>
    have hac : a = c := by
      cases a <;> cases c <;> first | rfl | simp [PlanValue.tag] at htag
    subst hac
    exact ⟨Except.ok.inj (ha.symm.trans hb), PlanValue.Same.bool a⟩
  | _ => cases a <;> simp [PlanValue.tag] at htag

lemma readsOff_int (a : ℤ) : ReadsOff (.int a) := by
  intro b x y s t ha hb h
  have htag := tag_eq ha hb h
  cases b with
  | int c =>
    simp only [encode, bind_eq_ok, pure_eq_ok, Except.ok.injEq] at ha hb
    obtain ⟨text, ha, rfl⟩ := ha
    obtain ⟨text', hb, rfl⟩ := hb
    have htext := Text.encode_injective (scalar_append_inj h).1
    subst htext
    have hac := intText_inj ha hb
    subst hac
    exact ⟨rfl, PlanValue.Same.int a⟩
  | bool c => cases c <;> simp [PlanValue.tag] at htag
  | _ => simp [PlanValue.tag] at htag

lemma readsOff_str (a : Text) : ReadsOff (.str a) := by
  intro b x y s t ha hb h
  have htag := tag_eq ha hb h
  cases b with
  | str c =>
    simp only [encode, Except.ok.injEq] at ha hb
    subst ha hb
    have hac := Text.encode_injective (scalar_append_inj h).1
    subst hac
    exact ⟨rfl, PlanValue.Same.str a⟩
  | bool c => cases c <;> simp [PlanValue.tag] at htag
  | _ => simp [PlanValue.tag] at htag

lemma readsOff_uuid (a : Fin (2 ^ 128)) : ReadsOff (.uuid a) := by
  intro b x y s t ha hb h
  have htag := tag_eq ha hb h
  cases b with
  | uuid c =>
    simp only [encode, Except.ok.injEq] at ha hb
    subst ha hb
    have hac := uuidText_injective (Text.encode_injective (scalar_append_inj h).1)
    subst hac
    exact ⟨rfl, PlanValue.Same.uuid a⟩
  | bool c => cases c <;> simp [PlanValue.tag] at htag
  | _ => simp [PlanValue.tag] at htag

lemma readsOff_datetime (a : Datetime) : ReadsOff (.datetime a) := by
  intro b x y s t ha hb h
  have htag := tag_eq ha hb h
  cases b with
  | datetime c =>
    simp only [encode, bind_eq_ok, pure_eq_ok, Except.ok.injEq] at ha hb
    obtain ⟨clock, ha, rfl⟩ := ha
    obtain ⟨clock', hb, rfl⟩ := hb
    have hiso := Text.encode_injective (scalar_append_inj h).1
    have hclock := isoformat_inj (lt_of_utc ha) (lt_of_utc hb) hiso
    subst hclock
    exact ⟨rfl, PlanValue.Same.datetime ((instant_of_utc ha).trans (instant_of_utc hb).symm)⟩
  | bool c => cases c <;> simp [PlanValue.tag] at htag
  | _ => simp [PlanValue.tag] at htag

/-- A container's count and its row of codes are read off the front. -/
lemma container_append_inj {tag : Char} {m n : ℕ} {r r' s t : List ℕ}
    (h : scalar tag (decimal m) ++ r ++ s = scalar tag (decimal n) ++ r' ++ t) :
    m = n ∧ r ++ s = r' ++ t := by
  rw [List.append_assoc, List.append_assoc] at h
  have hsplit := scalar_append_inj h
  exact ⟨decimal_injective hsplit.1, hsplit.2⟩

lemma readsOff_tuple (items : List PlanValue) (ih : ∀ x ∈ items, ReadsOff x) :
    ReadsOff (.tuple items) := by
  intro b x y s t ha hb h
  have htag := tag_eq ha hb h
  cases b with
  | tuple others =>
    simp only [encode, bind_eq_ok, pure_eq_ok, Except.ok.injEq, encodeItems_eq_ok] at ha hb
    obtain ⟨cx, hx, rfl⟩ := ha
    obtain ⟨cy, hy, rfl⟩ := hb
    have hrow := container_append_inj h
    have hcodes := items_append_inj ih hx hy (List.Perm.refl _) (List.Perm.refl _) hrow.1 hrow.2
    obtain ⟨rfl, -⟩ := hcodes
    rw [hrow.1]
    exact ⟨rfl, PlanValue.Same.tuple (same_of_codes_eq ih hx hy)⟩
  | bool c => cases c <;> simp [PlanValue.tag] at htag
  | _ => simp [PlanValue.tag] at htag

lemma readsOff_list (items : List PlanValue) (ih : ∀ x ∈ items, ReadsOff x) :
    ReadsOff (.list items) := by
  intro b x y s t ha hb h
  have htag := tag_eq ha hb h
  cases b with
  | list others =>
    simp only [encode, bind_eq_ok, pure_eq_ok, Except.ok.injEq, encodeItems_eq_ok] at ha hb
    obtain ⟨cx, hx, rfl⟩ := ha
    obtain ⟨cy, hy, rfl⟩ := hb
    have hrow := container_append_inj h
    have hcodes := items_append_inj ih hx hy (List.Perm.refl _) (List.Perm.refl _) hrow.1 hrow.2
    obtain ⟨rfl, -⟩ := hcodes
    rw [hrow.1]
    exact ⟨rfl, PlanValue.Same.list (same_of_codes_eq ih hx hy)⟩
  | bool c => cases c <;> simp [PlanValue.tag] at htag
  | _ => simp [PlanValue.tag] at htag

lemma readsOff_set (frozen : Bool) (items : List PlanValue) (ih : ∀ x ∈ items, ReadsOff x) :
    ReadsOff (.set frozen items) := by
  intro b x y s t ha hb h
  have htag := tag_eq ha hb h
  cases b with
  | set frozen' others =>
    simp only [encode, bind_eq_ok, pure_eq_ok, Except.ok.injEq, encodeItems_eq_ok] at ha hb
    obtain ⟨cx, hx, rfl⟩ := ha
    obtain ⟨cy, hy, rfl⟩ := hb
    have hrow := container_append_inj h
    have hcodes := items_append_inj ih hx hy (List.perm_insertionSort _ _)
      (List.perm_insertionSort _ _) hrow.1 hrow.2
    have hperm : cx.Perm cy := by
      have hcx := List.perm_insertionSort (· ≤ ·) cx
      rw [hcodes.1] at hcx
      exact hcx.symm.trans (List.perm_insertionSort _ cy)
    obtain ⟨zs, hzs, hzc⟩ := exists_perm_left hy hperm
    rw [hrow.1, hcodes.1]
    exact ⟨rfl, PlanValue.Same.set (same_of_codes_eq ih hx hzc) hzs⟩
  | bool c => cases c <;> simp [PlanValue.tag] at htag
  | _ => simp [PlanValue.tag] at htag

lemma readsOff_dict (members : List (PlanValue × PlanValue))
    (ih : ∀ m ∈ members, ReadsOff m.1 ∧ ReadsOff m.2) : ReadsOff (.dict members) := by
  intro b x y s t ha hb h
  have htag := tag_eq ha hb h
  cases b with
  | dict others =>
    simp only [encode, bind_eq_ok, pure_eq_ok, Except.ok.injEq, encodeMembers_eq_ok] at ha hb
    obtain ⟨cm, hm, dm, hdm, rfl⟩ := ha
    obtain ⟨cn, hn, dn, hdn, rfl⟩ := hb
    have hpm := (stableSort_eq_ok memberLess_follows hdm).1
    have hpn := (stableSort_eq_ok memberLess_follows hdn).1
    have hrow := container_append_inj h
    have hcodes := members_append_inj ih hm hn hpm hpn hrow.1 hrow.2
    have hperm : (cm.map CodedMember.code).Perm (cn.map CodedMember.code) := by
      have hcm := hpm.map CodedMember.code
      rw [hcodes.1] at hcm
      exact hcm.symm.trans (hpn.map _)
    obtain ⟨ks, hks, hsame⟩ := same_of_memberCodes_perm ih hm hn hperm
    rw [hrow.1, hcodes.1]
    refine ⟨rfl, PlanValue.Same.dict ?_ ?_ hks⟩
    · rw [List.forall₂_map_left_iff, List.forall₂_map_right_iff]
      exact hsame.imp fun _ _ hmk => hmk.1
    · rw [List.forall₂_map_left_iff, List.forall₂_map_right_iff]
      exact hsame.imp fun _ _ hmk => hmk.2
  | bool c => cases c <;> simp [PlanValue.tag] at htag
  | _ => simp [PlanValue.tag] at htag

/-- The code of a field: its name's scalar and its value's code. -/
def FieldCode (field : Text × PlanValue) (code : List ℕ) : Prop :=
  ∃ rest, encode field.2 = .ok rest ∧ code = scalar 's' field.1.encode ++ rest

lemma FieldCode.append_inj {f g : Text × PlanValue} {c d s t : List ℕ} (hread : ReadsOff f.2)
    (hc : FieldCode f c) (hd : FieldCode g d) (h : c ++ s = d ++ t) :
    c = d ∧ f.1 = g.1 ∧ f.2.Same g.2 := by
  obtain ⟨rest, hrest, rfl⟩ := hc
  obtain ⟨rest', hrest', rfl⟩ := hd
  rw [List.append_assoc, List.append_assoc] at h
  have hname := scalar_append_inj h
  have hvalue := hread g.2 rest rest' s t hrest hrest' hname.2
  have hfg := Text.encode_injective hname.1
  rw [hfg, hvalue.1]
  exact ⟨rfl, rfl, hvalue.2⟩

lemma readsOff_record (name : Text) (ordered : Bool) (fields : List (Text × PlanValue))
    (ih : ∀ f ∈ fields, ReadsOff f.2) : ReadsOff (.record name ordered fields) := by
  intro b x y s t ha hb h
  have htag := tag_eq ha hb h
  cases b with
  | record name' ordered' others =>
    simp only [encode, bind_eq_ok, pure_eq_ok, Except.ok.injEq, encodeFields_eq_ok] at ha hb
    obtain ⟨cf, hf, rfl⟩ := ha
    obtain ⟨cg, hg, rfl⟩ := hb
    have hf : List.Forall₂ FieldCode fields cf := hf
    have hg : List.Forall₂ FieldCode others cg := hg
    simp only [List.append_assoc] at h
    have hname := scalar_append_inj h
    have hcount := scalar_append_inj hname.2
    have hlength := decimal_injective hcount.1
    have hcodes : cf = cg ∧ s = t := by
      apply flatten_append_inj _ _ hcount.2
      · rw [← hf.length_eq, ← hg.length_eq, hlength]
      · intro c hc d hd s t hst
        obtain ⟨f, hfm, hfc⟩ := exists_of_mem_right hf hc
        obtain ⟨g, -, hgd⟩ := exists_of_mem_right hg hd
        exact (hfc.append_inj (ih f hfm) hgd hst).1
    obtain ⟨rfl, -⟩ := hcodes
    have hsame : List.Forall₂ (fun f g => f.1 = g.1 ∧ f.2.Same g.2) fields others := by
      apply forall₂_of_common _ hf hg
      intro f hfm g _ c hfc hgc
      exact (hfc.append_inj (s := []) (t := []) (ih f hfm) hgc rfl).2
    have hfg := Text.encode_injective hname.1
    subst hfg
    rw [hlength]
    refine ⟨rfl, PlanValue.Same.record ?_ ?_⟩
    · rw [← List.forall₂_eq_eq_eq, List.forall₂_map_left_iff, List.forall₂_map_right_iff]
      exact hsame.imp fun _ _ hfg => hfg.1
    · rw [List.forall₂_map_left_iff, List.forall₂_map_right_iff]
      exact hsame.imp fun _ _ hfg => hfg.2
  | bool c => cases c <;> simp [PlanValue.tag] at htag
  | _ => simp [PlanValue.tag] at htag

/-- The code of every value is read off the front of a text. -/
theorem readsOff (value : PlanValue) : ReadsOff value :=
  value.induct readsOff_none readsOff_bool readsOff_int readsOff_str readsOff_uuid
    readsOff_datetime readsOff_tuple readsOff_list readsOff_set readsOff_dict readsOff_record

end AgentRemote.Prune
