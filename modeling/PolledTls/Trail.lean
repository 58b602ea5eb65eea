/-!
Sequences that grow at their end. They are kept newest first, so that an addition costs no more than
what it adds, and they are read through `toList`, oldest first.
-/
namespace PolledTls

structure Trail (α : Type) where
  newestFirst : List α
deriving DecidableEq

namespace Trail

variable {α : Type}

def empty : Trail α := ⟨[]⟩

def ofList (items : List α) : Trail α :=
  ⟨items.reverse⟩

def toList (trail : Trail α) : List α :=
  trail.newestFirst.reverse

def size (trail : Trail α) : Nat :=
  trail.newestFirst.length

def push (trail : Trail α) (item : α) : Trail α :=
  ⟨item :: trail.newestFirst⟩

def append (trail : Trail α) (items : List α) : Trail α :=
  ⟨items.reverseAux trail.newestFirst⟩

instance : EmptyCollection (Trail α) := ⟨empty⟩

instance : HAppend (Trail α) (List α) (Trail α) := ⟨append⟩

@[ext] theorem ext {a b : Trail α} (h : a.toList = b.toList) : a = b := by
  obtain ⟨_⟩ := a
  obtain ⟨_⟩ := b
  exact congrArg mk (List.reverse_inj.1 h)

@[simp] theorem toList_empty : (∅ : Trail α).toList = [] := rfl

@[simp] theorem toList_ofList (items : List α) : (ofList items).toList = items :=
  List.reverse_reverse items

@[simp] theorem toList_push (trail : Trail α) (item : α) :
    (trail.push item).toList = trail.toList ++ [item] :=
  List.reverse_cons

@[simp] theorem toList_append (trail : Trail α) (items : List α) :
    (trail ++ items).toList = trail.toList ++ items := by
  change (items.reverseAux trail.newestFirst).reverse = _
  simp [toList, List.reverseAux_eq]

@[simp] theorem length_toList (trail : Trail α) : trail.toList.length = trail.size :=
  List.length_reverse

end Trail
end PolledTls
