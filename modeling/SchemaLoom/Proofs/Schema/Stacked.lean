import SchemaLoom.Proofs.Fields.Once
import SchemaLoom.Proofs.Json.SameData
import SchemaLoom.Proofs.Schema.MergedNode

/-!
# Overlays on overlays

An overlay and another one over it can be merged before they are laid over a
base: what a keyword comes to is decided by the last side that has it, and
unions do not care where they begin. Only the order of keys may differ.

With the deep policy there is one exception. A node of the first overlay that is
of another kind than the base's throws the base's away, unless the second
overlay replaces it before it gets there. Then the base's node meets one of its
own kind and stays. Such nodes are `Parted`, and away from them the two ways
agree at every depth.
-/

namespace SchemaLoom.Schema

open Json

theorem alike_mergeValue_left {a b c : Json} (hb : b.UniqueKeys) :
    Alike (mergeValue .deep a b) c ↔ Alike b c := by
  rw [Alike, Alike, kindOf_mergeValue .deep a hb]

theorem alike_mergeValue_right {a b c : Json} (hc : c.UniqueKeys) :
    Alike a (mergeValue .deep b c) ↔ Alike a c := by
  rw [Alike, Alike, kindOf_mergeValue .deep b hc]

theorem Alike.symm {a b : Json} (h : Alike a b) : Alike b a := by
  rcases h with ⟨ha, hb⟩ | ⟨ha, hb⟩
  · exact .inl ⟨hb, ha⟩
  · exact .inr ⟨hb, ha⟩

theorem Alike.kindOf_eq {a b : Json} (h : Alike a b) : kindOf a = kindOf b := by
  rcases h with ⟨ha, hb⟩ | ⟨ha, hb⟩
  · rw [ha, hb]
  · rw [ha, hb]

theorem Alike.trans {a b c : Json} (hab : Alike a b) (hbc : Alike b c) : Alike a c := by
  rw [Alike, hab.kindOf_eq]
  exact hbc

/-- Three values come to the same data whichever two of them are merged first.
Each of them may be missing. -/
def Stacks (policy : Policy) (a b c : Option Json) : Prop :=
  SameEntry (laid policy (laid policy a b) c) (laid policy a (laid policy b c))

/-- Only where all three sides have a value does it matter which two are merged
first. -/
theorem stacks_of_all {policy : Policy} {a b c : Option Json}
    (h : ∀ x y z, a = some x → b = some y → c = some z →
      SameData (mergeValue policy (mergeValue policy x y) z)
        (mergeValue policy x (mergeValue policy y z))) : Stacks policy a b c := by
  cases c with
  | none =>
      refine .of_eq ?_
      rw [laid_none_right, laid_none_right]
  | some z =>
      cases b with
      | none =>
          refine .of_eq ?_
          rw [laid_none_right, laid_none_left]
      | some y =>
          cases a with
          | none => exact .of_eq rfl
          | some x => exact .some (h x y z rfl rfl rfl)

theorem stacks_shallow (a b c : Option Json) : Stacks .shallow a b c := by
  refine stacks_of_all fun x y z _ _ _ => ?_
  rw [mergeValue_shallow, mergeValue_shallow, mergeValue_shallow]
  exact .refl z

theorem sameData_mergeProperties {policy : Policy} {a b c : Fields Json} (ha : a.Distinct)
    (hb : b.Distinct) (hc : c.Distinct)
    (h : ∀ key, Stacks policy (a.get? key) (b.get? key) (c.get? key)) :
    SameData (.object (mergeProperties policy (mergeProperties policy a b) c))
      (.object (mergeProperties policy a (mergeProperties policy b c))) := by
  have hab := distinct_mergeProperties ha policy b
  have hbc := distinct_mergeProperties hb policy c
  refine sameData_object (distinct_mergeProperties hab policy c)
    (distinct_mergeProperties ha policy _) fun key => ?_
  rw [get?_mergeProperties hab hc, get?_mergeProperties ha hb, get?_mergeProperties ha hbc,
    get?_mergeProperties hb hc]
  exact h key

section Merged

variable {policy : Policy} {atRoot : Bool} {a b c ab bc first second : Fields Json}

/-- Which keys are required, and in which order, does not depend on which two
sides are merged first. -/
theorem unionRequired_assoc (hab : ObjectsMerged policy atRoot a b ab)
    (hbc : ObjectsMerged policy atRoot b c bc) : unionRequired ab c = unionRequired a bc := by
  calc unionRequired ab c
      = ((requiredOf a ++ requiredOf b).eraseDups ++ requiredOf c).eraseDups := by
        rw [unionRequired, hab.requiredOf_eq, unionRequired]
    _ = (requiredOf a ++ (requiredOf b ++ requiredOf c).eraseDups).eraseDups := by
        rw [Once.eraseDups_append_left, Once.eraseDups_append_right, List.append_assoc]
    _ = unionRequired a bc := by rw [unionRequired, hbc.requiredOf_eq, unionRequired]

/-- Two nodes that three come to, by merging the first two first or the last
two, say the same if the properties do. -/
theorem sameData_of_objectsMerged (ha : UniqueKeys (.object a)) (hb : UniqueKeys (.object b))
    (hc : UniqueKeys (.object c)) (hab : ObjectsMerged policy atRoot a b ab)
    (hbc : ObjectsMerged policy atRoot b c bc) (hfirst : ObjectsMerged policy atRoot ab c first)
    (hsecond : ObjectsMerged policy atRoot a bc second)
    (h : ∀ key, Stacks policy ((propertiesOf a).get? key) ((propertiesOf b).get? key)
      ((propertiesOf c).get? key)) : SameData (.object first) (.object second) := by
  refine sameData_object hfirst.distinct hsecond.distinct fun key => ?_
  by_cases hp : key = "properties"
  · have hhas : first.has "properties" = second.has "properties" := by
      rw [hfirst.hasProperties, hab.hasProperties, hsecond.hasProperties, hbc.hasProperties]
      cases atRoot <;> simp [Bool.or_assoc]
    subst hp
    cases hsome : second.has "properties" with
    | false =>
        rw [hsome] at hhas
        rw [Fields.has, Option.isSome_eq_false_iff, Option.isNone_iff_eq_none] at hhas hsome
        exact .of_eq (hhas.trans hsome.symm)
    | true =>
        rw [hfirst.get?_properties (hhas.trans hsome), hsecond.get?_properties hsome,
          hab.properties, hbc.properties]
        exact .some (sameData_mergeProperties (uniqueKeys_propertiesOf ha).distinct
          (uniqueKeys_propertiesOf hb).distinct
          (uniqueKeys_propertiesOf hc).distinct h)
  · refine .of_eq ?_
    by_cases hr : key = "required"
    · have hunion : (requiredOf ab ++ requiredOf c).eraseDups =
          (requiredOf a ++ requiredOf bc).eraseDups := unionRequired_assoc hab hbc
      rw [hr, hfirst.required, hsecond.required, hab.has_required, hbc.has_required, hunion,
        Bool.or_assoc]
    · rw [hfirst.keyword key hp hr, hab.keyword key hp hr, hsecond.keyword key hp hr,
        hbc.keyword key hp hr, Option.or_assoc]

end Merged

theorem sameData_mergeArray {policy : Policy} {a b c : Fields Json} (ha : a.Distinct)
    (hb : b.Distinct) (hc : c.Distinct)
    (h : Stacks policy (a.get? "items") (b.get? "items") (c.get? "items")) :
    SameData (.object (mergeArray policy (mergeArray policy a b) c))
      (.object (mergeArray policy a (mergeArray policy b c))) := by
  have hab := distinct_mergeArray ha policy b
  have hbc := distinct_mergeArray hb policy c
  refine sameData_object (distinct_mergeArray hab policy c) (distinct_mergeArray ha policy _)
    fun key => ?_
  by_cases hi : key = "items"
  · simp only [get?_mergeArray hc, get?_mergeArray hb, get?_mergeArray hbc, if_pos hi, if_true]
    exact h
  · refine .of_eq ?_
    simp only [get?_mergeArray hc, get?_mergeArray hb, get?_mergeArray hbc, if_neg hi]
    rw [Option.or_assoc]

/-- Three nodes of the kind `object` come to the same, whichever two are merged
first, if their properties do. -/
theorem sameData_objects {a b c : Fields Json} (ha : UniqueKeys (.object a))
    (hb : UniqueKeys (.object b)) (hc : UniqueKeys (.object c))
    (hka : kindOf (.object a) = .ok .object) (hkb : kindOf (.object b) = .ok .object)
    (hkc : kindOf (.object c) = .ok .object)
    (h : ∀ key, Stacks .deep ((propertiesOf a).get? key) ((propertiesOf b).get? key)
      ((propertiesOf c).get? key)) :
    SameData (mergeValue .deep (mergeValue .deep (.object a) (.object b)) (.object c))
      (mergeValue .deep (.object a) (mergeValue .deep (.object b) (.object c))) := by
  have had := ha.distinct
  have hbd := hb.distinct
  have hcd := hc.distinct
  rw [mergeValue_objects hka hkb, mergeValue_objects hkb hkc,
    mergeValue_objects (kindOf_mergeNode hbd .deep a hkb) hkc,
    mergeValue_objects hka (kindOf_mergeNode hcd .deep b hkc)]
  exact sameData_of_objectsMerged ha hb hc (objectsMerged_mergeNode had hbd .deep)
    (objectsMerged_mergeNode hbd hcd .deep)
    (objectsMerged_mergeNode (distinct_mergeNode had .deep b) hcd .deep)
    (objectsMerged_mergeNode had (distinct_mergeNode hbd .deep c) .deep) h

theorem sameData_arrays {a b c : Fields Json} (ha : a.Distinct) (hb : b.Distinct) (hc : c.Distinct)
    (hka : kindOf (.object a) = .ok .array) (hkb : kindOf (.object b) = .ok .array)
    (hkc : kindOf (.object c) = .ok .array)
    (h : Stacks .deep (a.get? "items") (b.get? "items") (c.get? "items")) :
    SameData (mergeValue .deep (mergeValue .deep (.object a) (.object b)) (.object c))
      (mergeValue .deep (.object a) (mergeValue .deep (.object b) (.object c))) := by
  rw [mergeValue_arrays hka hkb, mergeValue_arrays hkb hkc,
    mergeValue_arrays (kindOf_mergeArray hb .deep a hkb) hkc,
    mergeValue_arrays hka (kindOf_mergeArray hc .deep b hkc)]
  exact sameData_mergeArray ha hb hc h

/-- Three nodes of which the outer two are of one kind, and that a kind that is
merged, while the middle one is not. -/
def Parted (a b c : Json) : Prop := Alike a c ∧ ¬Alike a b

def NowhereParted (a b c : Option Json) : Prop :=
  ∀ path x y z, walk a path = some x → walk b path = some y → walk c path = some z → ¬Parted x y z

theorem NowhereParted.child {a b c : Json} (h : NowhereParted (some a) (some b) (some c))
    (step : Step) : NowhereParted (child a step) (child b step) (child c step) :=
  fun path => h (step :: path)

/-- Below nodes that are all of the kind a step can be taken from, nodes are
parted only if there is a path to them. -/
theorem NowhereParted.take {a b c : Fields Json}
    (h : NowhereParted (some (.object a)) (some (.object b)) (some (.object c))) (step : Step)
    (ha : kindOf (.object a) = .ok step.kind) (hb : kindOf (.object b) = .ok step.kind)
    (hc : kindOf (.object c) = .ok step.kind) :
    NowhereParted (step.take a) (step.take b) (step.take c) := by
  have hchild := h.child step
  rwa [child_object ha, child_object hb, child_object hc, if_pos rfl, if_pos rfl,
    if_pos rfl] at hchild

/-- Three nodes come to the same whichever two of them are merged first, unless
some are parted. -/
theorem sameData_mergeValue {a b c : Json} (ha : a.UniqueKeys) (hb : b.UniqueKeys)
    (hc : c.UniqueKeys) (h : NowhereParted (some a) (some b) (some c)) :
    SameData (mergeValue .deep (mergeValue .deep a b) c)
      (mergeValue .deep a (mergeValue .deep b c)) := by
  induction c using induction_below generalizing a b with
  | step c ihproperties ihitems =>
      by_cases hbc : Alike b c
      · by_cases hab : Alike a b
        · rcases hbc with ⟨hkb, hkc⟩ | ⟨hkb, hkc⟩
          · have hka := hab.kindOf_eq.trans hkb
            obtain ⟨a, rfl⟩ := exists_fields_of_kindOf hka
            obtain ⟨b, rfl⟩ := exists_fields_of_kindOf hkb
            obtain ⟨c, rfl⟩ := exists_fields_of_kindOf hkc
            refine sameData_objects ha hb hc hka hkb hkc fun key => stacks_of_all ?_
            intro x y z hx hy hz
            have hmem := Fields.mem_of_get? hz
            have htake : NowhereParted ((propertiesOf a).get? key) ((propertiesOf b).get? key)
                ((propertiesOf c).get? key) := h.take (.property key) hka hkb hkc
            rw [hx, hy, hz] at htake
            exact ihproperties _ (get?_properties_of_mem hmem) _ hmem
              ((uniqueKeys_propertiesOf ha).get? hx) ((uniqueKeys_propertiesOf hb).get? hy)
              ((uniqueKeys_propertiesOf hc).get? hz) htake
          · have hka := hab.kindOf_eq.trans hkb
            obtain ⟨a, rfl⟩ := exists_fields_of_kindOf hka
            obtain ⟨b, rfl⟩ := exists_fields_of_kindOf hkb
            obtain ⟨c, rfl⟩ := exists_fields_of_kindOf hkc
            refine sameData_arrays ha.distinct hb.distinct
              hc.distinct hka hkb hkc (stacks_of_all ?_)
            intro x y z hx hy hz
            have htake : NowhereParted (Fields.get? "items" a) (Fields.get? "items" b)
                (Fields.get? "items" c) := h.take .items hka hkb hkc
            rw [hx, hy, hz] at htake
            exact ihitems z hz (ha.get? hx) (hb.get? hy) (hc.get? hz) htake
        · -- The first overlay's node replaces the base's, and so does its merge with the second's.
          have hout : ¬Alike a (mergeValue .deep b c) := by
            rw [alike_mergeValue_right hc]
            exact fun hac => hab (hac.trans hbc.symm)
          rw [mergeValue_of_not_alike hab, mergeValue_of_not_alike hout]
          exact .refl _
      · -- The second overlay's node replaces the first's. It meets the base's only if it replaces
        -- that as well.
        have hac : ¬Alike a c := by
          intro hac
          have hab : ¬Alike a b := fun hab => hbc (hab.symm.trans hac)
          exact h [] a b c rfl rfl rfl ⟨hac, hab⟩
        have hout : ¬Alike (mergeValue .deep a b) c := by rwa [alike_mergeValue_left hb]
        rw [mergeValue_of_not_alike hbc, mergeValue_of_not_alike hac, mergeValue_of_not_alike hout]
        exact .refl c

/-- Three roots come to the same whichever two are merged first, if their
properties do. -/
theorem sameData_merge {policy : Policy} {a b c : Fields Json} (ha : UniqueKeys (.object a))
    (hb : UniqueKeys (.object b)) (hc : UniqueKeys (.object c))
    (h : ∀ key, Stacks policy ((propertiesOf a).get? key) ((propertiesOf b).get? key)
      ((propertiesOf c).get? key)) :
    SameData (.object (merge policy (merge policy a b) c))
      (.object (merge policy a (merge policy b c))) := by
  have had := ha.distinct
  have hbd := hb.distinct
  have hcd := hc.distinct
  exact sameData_of_objectsMerged ha hb hc (objectsMerged_merge had hbd policy)
    (objectsMerged_merge hbd hcd policy)
    (objectsMerged_merge (distinct_merge had policy b) hcd policy)
    (objectsMerged_merge had (distinct_merge hbd policy c) policy) h

/-- A base and two overlays come to the same, up to the order of keys, whether
the first overlay is laid over the base or under the second one first: with the
shallow policy always, with the deep one if on no path that all three have do
the base and the second overlay hold two objects or two arrays while the first
overlay holds something else. -/
theorem merge_stacked {a b c : Fields Json} (ha : UniqueKeys (.object a))
    (hb : UniqueKeys (.object b)) (hc : UniqueKeys (.object c)) :
    SameData (.object (merge .shallow (merge .shallow a b) c))
        (.object (merge .shallow a (merge .shallow b c))) ∧
      ((∀ path x y z, path ≠ [] → nodeAt a path = some x → nodeAt b path = some y →
          nodeAt c path = some z → ¬Parted x y z) →
        SameData (.object (merge .deep (merge .deep a b) c))
          (.object (merge .deep a (merge .deep b c)))) := by
  refine ⟨sameData_merge ha hb hc fun key => stacks_shallow _ _ _, fun h => ?_⟩
  refine sameData_merge ha hb hc fun key => stacks_of_all fun x y z hx hy hz => ?_
  have hbelow : NowhereParted (some x) (some y) (some z) := by
    intro path x' y' z' hx' hy' hz'
    have hnode : ∀ {root : Fields Json} {top node : Json}, (propertiesOf root).get? key = some top →
        walk (some top) path = some node → nodeAt root (.property key :: path) = some node := by
      intro root top node htop hwalk
      rwa [nodeAt, htop]
    exact h (.property key :: path) x' y' z' (List.cons_ne_nil _ _) (hnode hx hx') (hnode hy hy')
      (hnode hz hz')
  exact sameData_mergeValue ((uniqueKeys_propertiesOf ha).get? hx)
    ((uniqueKeys_propertiesOf hb).get? hy) ((uniqueKeys_propertiesOf hc).get? hz) hbelow

/-- A property of three kinds, which the second overlay replaces, and an object
that the first overlay leaves out. -/
theorem merge_stacked_mixed :
    let node (kind : String) (rest : Fields Json) := Json.object (("type", .string kind) :: rest)
    let a : Fields Json := [("properties", .object [
      ("n", node "object" [("title", .string "A")]),
      ("k", node "object" [("required", .array [.string "x"]), ("title", .string "A")])])]
    let b : Fields Json := [("properties", .object [("n", node "string" [])]),
      ("title", .string "B")]
    let c : Fields Json := [("properties", .object [("n", node "array" []),
      ("k", node "object" [("required", .array [.string "y", .string "x"])])])]
    UniqueKeys (.object a) ∧ UniqueKeys (.object b) ∧ UniqueKeys (.object c) ∧
      (∀ path x y z, path ≠ [] → nodeAt a path = some x → nodeAt b path = some y →
        nodeAt c path = some z → ¬Parted x y z) ∧
      SameData (.object (merge .deep (merge .deep a b) c))
        (.object (merge .deep a (merge .deep b c))) := by
  intro node a b c
  have ha : UniqueKeys (.object a) := by simp [a, node, Fields.Distinct]
  have hb : UniqueKeys (.object b) := by simp [b, node, Fields.Distinct]
  have hc : UniqueKeys (.object c) := by simp [c, node, Fields.Distinct]
  have hparted : ∀ path x y z, path ≠ [] → nodeAt a path = some x → nodeAt b path = some y →
      nodeAt c path = some z → ¬Parted x y z := by
    intro path x y z hpath hx hy hz hxyz
    obtain ⟨first, rest, rfl⟩ := List.exists_cons_of_ne_nil hpath
    cases first with
    | items => simp [nodeAt] at hy
    | property key =>
        by_cases hkey : key = "n"
        · subst hkey
          cases rest with
          | nil =>
              obtain rfl := Option.some.inj hx
              obtain rfl := Option.some.inj hz
              rcases hxyz.1 with ⟨_, h⟩ | ⟨h, _⟩
              · cases h
              · cases h
          | cons step rest =>
              have hnone : nodeAt b (.property "n" :: step :: rest) = none := by
                cases step <;> exact walk_none rest
              rw [hnone] at hy
              cases hy
        · have hnone : nodeAt b (.property key :: rest) = none := by
            simp [nodeAt, b, propertiesOf, object?, Ne.symm hkey]
          rw [hnone] at hy
          cases hy
  exact ⟨ha, hb, hc, hparted, (merge_stacked ha hb hc).2 hparted⟩

end SchemaLoom.Schema
