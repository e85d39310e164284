import SchemaLoom.Json.Basic

/-!
# The order of properties

A property may carry a number under `position`. Properties with a position come
first, by ascending position; those without follow. Properties that neither rule
tells apart keep their order, so the whole is one stable sort by a total
preorder in which a missing position is the last.

Positions are compared as numbers of binary64, however they are written. What
stands under `position` and is no number counts as no position.
-/

namespace SchemaLoom.Schema

/-- The number under `position`, read in binary64. Anything but a number counts
as none, so a position given as a text puts a property behind all others. -/
def position? (node : Json) : Option Binary64 := (node.get? "position").bind Json.binary64?

/-- Whether a node may stand before another: by position, with a missing one
last. Two nodes may precede each other both ways, and then sorting leaves them
as they came. -/
def mayPrecede (a b : Json) : Bool :=
  match position? a, position? b with
  | some x, some y => x.le y
  | _, none => true
  | none, some _ => false

/-- The properties in order. The sort is stable, so the order in which
properties were written decides between equal positions. -/
def ordered (properties : Fields Json) : Fields Json :=
  properties.mergeSort fun a b => mayPrecede a.2 b.2

def orderRoot (schema : Json) : Json :=
  match schema with
  | .object fields =>
    match Fields.get? "properties" fields with
    | some (.object properties) =>
      .object (Fields.set "properties" (.object (ordered properties)) fields)
    | _ => .object fields
  | other => other

theorem mayPrecede_total (a b : Json) : (mayPrecede a b || mayPrecede b a) = true := by
  unfold mayPrecede
  cases position? a <;> cases position? b <;> simp
  exact Binary64.le_total _ _

theorem mayPrecede_trans (a b c : Json) (h : mayPrecede a b = true) (k : mayPrecede b c = true) :
    mayPrecede a c = true := by
  unfold mayPrecede at *
  split at h <;> split at k <;> simp_all
  exact Binary64.le_trans h k

/-- Ordering neither loses nor invents a property. -/
theorem ordered_perm (properties : Fields Json) : (ordered properties).Perm properties :=
  List.mergeSort_perm _ _

/-- Of any two properties in order the first may stand before the second. -/
theorem pairwise_ordered (properties : Fields Json) :
    (ordered properties).Pairwise fun a b => mayPrecede a.2 b.2 = true :=
  List.pairwise_mergeSort (fun a b c => mayPrecede_trans a.2 b.2 c.2)
    (fun a b => mayPrecede_total a.2 b.2) properties

end SchemaLoom.Schema
