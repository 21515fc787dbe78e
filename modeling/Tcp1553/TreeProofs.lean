import Mathlib.Data.List.Basic
import Tcp1553.AllocationProofs
import Tcp1553.FilterProofs

/-! # The tree of buses, terminals and subaddresses

    The constructor of `BusMonitorPanel` appends one item for each bus, terminal and
    subaddress of the `MilStd1553` model and one for each mode code, and keeps the
    items in the model and in `m_treeItemToMcMap`.  `onTreeItemClicked` searches these
    for the item that was clicked and sets the filter to what it finds.

    `TreePath` is the tree as it is meant, `itemId` the item the constructor gives a
    path.  `searchItem_iff` says that the search is the inverse of the construction. -/

namespace TcpView

open Allocation TcpRelay

/-! ## Building the tree -/

/-- `RT_COUNT`. -/
def RT_COUNT : Nat := 32

/-- `SA_COUNT`. -/
def SA_COUNT : Nat := 32

/-- `getModeCodeList`. -/
def modeCodeList : List (Nat × String) :=
  [(0, "Dynamic Bus Control"), (1, "Synchronize"), (2, "Transmit Status Word"),
    (3, "Initiate Self-Test"), (4, "Transmitter Shutdown"), (5, "Override Transmitter Shutdown"),
    (8, "Reset Remote Terminal"), (16, "Transmit Vector Word"), (17, "Synchronize (with data)"),
    (18, "Transmit Last Command"), (19, "Transmit BIT Word")]

/-- An item of the tree control; `mc` is its entry in `m_treeItemToMcMap`. -/
structure TreeItem where
  parent : Option Nat
  text   : String
  mc     : Option Nat
  deriving DecidableEq, Repr

/-- A terminal of the model, with the items of its subaddresses. -/
structure Rt where
  treeObject : Nat
  saList     : List Nat
  deriving DecidableEq, Repr

/-- A bus of the model. -/
structure Bus where
  treeObject : Nat
  rtList     : List Rt
  deriving DecidableEq, Repr

/-- `AppendItem`. -/
def appendItem (parent : Nat) (text : String) : Build TreeItem Nat :=
  appendRow ⟨some parent, text, none⟩

/-- `AppendItem` for a mode code, and its entry in the map. -/
def appendModeCode (mcRoot : Nat) (mc : Nat × String) : Build TreeItem Nat :=
  appendRow ⟨some mcRoot, "MC " ++ toString mc.1 ++ ": " ++ mc.2, some mc.1⟩

/-- The subaddresses of a terminal. -/
def buildSas (rt : Nat) : Build TreeItem (List Nat) :=
  (List.range SA_COUNT).mapM fun sa => appendItem rt ("SA " ++ toString sa)

/-- Its mode codes. -/
def buildModeCodes (rt : Nat) : Build TreeItem (List Nat) := do
  let mcRoot ← appendItem rt "Mode Codes"
  modeCodeList.mapM (appendModeCode mcRoot)

/-- The pass for a terminal. -/
def buildRt (bus rt : Nat) : Build TreeItem Rt := do
  let treeObject ← appendItem bus ("RT " ++ toString rt)
  let saList ← buildSas treeObject
  let _ ← buildModeCodes treeObject
  return { treeObject, saList }

/-- The pass for a bus; item 0 is the root. -/
def buildBus (name : String) : Build TreeItem Bus := do
  let treeObject ← appendItem 0 name
  let rtList ← (List.range RT_COUNT).mapM (buildRt treeObject)
  return { treeObject, rtList }

/-- The model with its items, and the items of the tree control. -/
structure Tree where
  busList : List Bus
  items   : List TreeItem
  deriving DecidableEq, Repr

/-- The loops of the constructor, behind `AddRoot`. -/
def built : Tree :=
  let r := (["BUS A", "BUS B"].mapM buildBus).run [⟨none, "MIL-STD-1553 Buses", none⟩]
  { busList := r.1, items := r.2 }

/-- `GetItemParent`. -/
def Tree.getItemParent (t : Tree) (item : Nat) : Option Nat := t.items[item]?.bind TreeItem.parent

/-- The entry of an item in `m_treeItemToMcMap`. -/
def Tree.modeCodeOf (t : Tree) (item : Nat) : Option Nat := t.items[item]?.bind TreeItem.mc

/-! ## Searching it -/

/-- The letter of a bus. -/
def busLetter (i : Nat) : Char := if i = 0 then 'A' else 'B'

/-- The loops for a mode code, with the items of its terminal and bus. -/
def Tree.searchModeCode (t : Tree) (mc busItem rtItem : Nat) : Option Criteria :=
  t.busList.zipIdx.findSome? fun (bus, i) =>
    if bus.treeObject = busItem then
      bus.rtList.zipIdx.findSome? fun (rt, j) =>
        if rt.treeObject = rtItem then some ⟨busLetter i, j, -1, mc⟩ else none
    else none

/-- The loops for any other item. -/
def Tree.searchModel (t : Tree) (clicked : Nat) : Option Criteria :=
  t.busList.zipIdx.findSome? fun (bus, i) =>
    if bus.treeObject = clicked then some ⟨busLetter i, -1, -1, -1⟩
    else
      bus.rtList.zipIdx.findSome? fun (rt, j) =>
        if rt.treeObject = clicked then some ⟨busLetter i, j, -1, -1⟩
        else
          rt.saList.zipIdx.findSome? fun (sa, k) =>
            if sa = clicked then some ⟨busLetter i, j, k, -1⟩ else none

/-- The search of `onTreeItemClicked`: the criteria when an item was found. -/
def Tree.searchItem (t : Tree) (clicked : Nat) : Option Criteria :=
  match t.modeCodeOf clicked with
  | some mc => do
      let mcRoot ← t.getItemParent clicked
      let rtItem ← t.getItemParent mcRoot
      let busItem ← t.getItemParent rtItem
      t.searchModeCode mc busItem rtItem
  | none => t.searchModel clicked

theorem Tree.searchItem_of_none {t : Tree} {clicked : Nat} (h : t.modeCodeOf clicked = none) :
    t.searchItem clicked = t.searchModel clicked := by
  rw [Tree.searchItem, h]

theorem Tree.searchItem_of_some {t : Tree} {clicked mc mcRoot rtItem busItem : Nat}
    (h : t.modeCodeOf clicked = some mc) (hroot : t.getItemParent clicked = some mcRoot)
    (hrt : t.getItemParent mcRoot = some rtItem) (hbus : t.getItemParent rtItem = some busItem) :
    t.searchItem clicked = t.searchModeCode mc busItem rtItem := by
  simp only [Tree.searchItem, h, hroot, hrt, hbus, Option.bind_eq_bind, Option.bind_some]

/-! ## The tree as it is meant -/

/-- The items of a terminal: itself, its subaddresses, the item above its mode codes,
    and these. -/
inductive RtItem where
  | self
  | sa (k : Fin 32)
  | modeCodes
  | mc (m : Fin 11)
  deriving DecidableEq, Repr

/-- What an item stands for. -/
inductive TreePath where
  | bus (i : Fin 2)
  | rt (i : Fin 2) (j : Fin 32) (item : RtItem)
  deriving DecidableEq, Repr

/-- Where the constructor appends an item of a terminal. -/
def RtItem.slot : RtItem → Nat
  | .self => 0
  | .sa k => k + 1
  | .modeCodes => 33
  | .mc m => m + 34

/-- The item of a bus. -/
def busId (i : Nat) : Nat := 1 + 1441 * i

/-- The item of a terminal. -/
def rtId (i j : Nat) : Nat := busId i + (1 + 45 * j)

/-- The item a path has. -/
def itemId : TreePath → Nat
  | .bus i => busId i
  | .rt i j item => rtId i j + item.slot

/-- A mode code, with its name. -/
def modeCodeAt (m : Fin 11) : Nat × String := modeCodeList.get m

/-- The criteria a path names; the item above the mode codes names none. -/
def TreePath.criteria : TreePath → Option Criteria
  | .bus i => some ⟨busLetter i, -1, -1, -1⟩
  | .rt i j .self => some ⟨busLetter i, j, -1, -1⟩
  | .rt i j (.sa k) => some ⟨busLetter i, j, k, -1⟩
  | .rt _ _ .modeCodes => none
  | .rt i j (.mc m) => some ⟨busLetter i, j, -1, (modeCodeAt m).1⟩

theorem RtItem.slot_lt (item : RtItem) : item.slot < 45 := by
  cases item <;> simp only [RtItem.slot] <;> omega

theorem RtItem.slot_inj {item item' : RtItem} (h : item.slot = item'.slot) : item = item' := by
  cases item <;> cases item' <;> simp only [RtItem.slot] at h <;>
    first
      | rfl
      | (exfalso; omega)
      | (congr 1; omega)

/-- The terminals of a bus are 45 items apart. -/
theorem rtPlace_inj {j j' r r' : Nat} (hr : r < 45) (hr' : r' < 45)
    (h : 45 * j + r = 45 * j' + r') : j = j' ∧ r = r' := by
  omega

/-- The buses are 1441 items apart. -/
theorem busPlace_inj {i i' r r' : Nat} (hr : r < 1441) (hr' : r' < 1441)
    (h : 1441 * i + r = 1441 * i' + r') : i = i' ∧ r = r' := by
  omega

/-- **Different paths have different items.** -/
theorem itemId_inj {p q : TreePath} (h : itemId p = itemId q) : p = q := by
  have hplace : ∀ (j : Fin 32) (item : RtItem), 1 + 45 * j + item.slot < 1441 := by
    intro j item
    have hslot := item.slot_lt
    omega
  cases p with
  | bus i =>
      cases q with
      | bus i' =>
          have heq : 1 + 1441 * i.val = 1 + 1441 * i'.val := h
          rw [Fin.ext (by omega : i.val = i'.val)]
      | rt i' j' item' =>
          have heq : 1 + 1441 * i.val = 1 + 1441 * i'.val + (1 + 45 * j'.val) + item'.slot := h
          have hsplit := busPlace_inj (by omega) (hplace j' item')
            (by omega : 1441 * i.val + 0 = 1441 * i'.val + (1 + 45 * j'.val + item'.slot))
          omega
  | rt i j item =>
      cases q with
      | bus i' =>
          have heq : 1 + 1441 * i.val + (1 + 45 * j.val) + item.slot = 1 + 1441 * i'.val := h
          have hsplit := busPlace_inj (hplace j item) (by omega)
            (by omega : 1441 * i.val + (1 + 45 * j.val + item.slot) = 1441 * i'.val + 0)
          omega
      | rt i' j' item' =>
          have heq : 1 + 1441 * i.val + (1 + 45 * j.val) + item.slot
              = 1 + 1441 * i'.val + (1 + 45 * j'.val) + item'.slot := h
          obtain ⟨hi, hrest⟩ := busPlace_inj (hplace j item) (hplace j' item')
            (by omega : 1441 * i.val + (1 + 45 * j.val + item.slot)
              = 1441 * i'.val + (1 + 45 * j'.val + item'.slot))
          obtain ⟨hj, hslot⟩ := rtPlace_inj item.slot_lt item'.slot_lt
            (by omega : 45 * j.val + item.slot = 45 * j'.val + item'.slot)
          rw [Fin.ext hi, Fin.ext hj, RtItem.slot_inj hslot]

/-! ## What the constructor builds -/

/-- The rows of the subaddresses. -/
def saRows (rt : Nat) : List TreeItem :=
  (List.range SA_COUNT).map fun sa => ⟨some rt, "SA " ++ toString sa, none⟩

/-- The rows of the mode codes. -/
def modeCodeRows (rt n : Nat) : List TreeItem :=
  ⟨some rt, "Mode Codes", none⟩ :: modeCodeList.map fun mc =>
    ⟨some n, "MC " ++ toString mc.1 ++ ": " ++ mc.2, some mc.1⟩

/-- The rows of a terminal. -/
def rtRows (bus rt n : Nat) : List TreeItem :=
  ⟨some bus, "RT " ++ toString rt, none⟩ :: (saRows n ++ modeCodeRows n (n + 33))

/-- The rows of a bus. -/
def busRows (name : String) (n : Nat) : List TreeItem :=
  ⟨some 0, name, none⟩ :: (List.range RT_COUNT).flatMap fun rt => rtRows n rt (n + 1 + 45 * rt)

theorem buildSas_allocates (rt : Nat) :
    Allocates (buildSas rt) 32 (fun n => (List.range SA_COUNT).map (n + ·)) fun _ => saRows rt :=
  allocates_rows _ (List.range SA_COUNT)

theorem buildModeCodes_allocates (rt : Nat) :
    Allocates (buildModeCodes rt) 12 (fun n => (List.range 11).map (n + 1 + ·))
      (modeCodeRows rt) :=
  allocates_bind (allocates_row _) fun n => allocates_rows (fun mc : Nat × String =>
    (⟨some n, "MC " ++ toString mc.1 ++ ": " ++ mc.2, some mc.1⟩ : TreeItem)) modeCodeList

theorem buildRt_allocates (bus rt : Nat) :
    Allocates (buildRt bus rt) 45 (fun n => ⟨n, (List.range SA_COUNT).map (n + 1 + ·)⟩)
      (rtRows bus rt) := by
  have hrest : ∀ n, Allocates
      (do
        let saList ← buildSas n
        let _ ← buildModeCodes n
        return (⟨n, saList⟩ : Rt)) 44
      (fun p => ⟨n, (List.range SA_COUNT).map (p + ·)⟩)
      fun p => saRows n ++ modeCodeRows n (p + 32) :=
    fun n => allocates_bind (buildSas_allocates n) fun saList =>
      allocates_map (buildModeCodes_allocates n) fun _ => (⟨n, saList⟩ : Rt)
  exact allocates_bind (allocates_row _) hrest

theorem buildBus_allocates (name : String) :
    Allocates (buildBus name) 1441
      (fun n => ⟨n, (List.range RT_COUNT).map fun rt =>
        ⟨n + 1 + 45 * rt, (List.range SA_COUNT).map (n + 1 + 45 * rt + 1 + ·)⟩⟩)
      (busRows name) := by
  have hrts : ∀ n, Allocates
      (do return (⟨n, ← (List.range RT_COUNT).mapM (buildRt n)⟩ : Bus)) (RT_COUNT * 45)
      (fun p => ⟨n, (List.range RT_COUNT).map fun rt =>
        ⟨p + 45 * rt, (List.range SA_COUNT).map (p + 45 * rt + 1 + ·)⟩⟩)
      fun p => (List.range RT_COUNT).flatMap fun rt => rtRows n rt (p + 45 * rt) := by
    intro n
    have hloop := allocates_range (buildRt_allocates n) RT_COUNT
    exact allocates_map hloop fun rtList => (⟨n, rtList⟩ : Bus)
  have hboth := allocates_bind (allocates_row (⟨some 0, name, none⟩ : TreeItem)) hrts
  exact hboth.of_eq rfl (fun _ => rfl) (fun _ => rfl)

/-- A bus of the model, with its items. -/
def busAt (i : Nat) : Bus where
  treeObject := busId i
  rtList := (List.range RT_COUNT).map fun j =>
    ⟨busId i + 1 + 45 * j, (List.range SA_COUNT).map (busId i + 1 + 45 * j + 1 + ·)⟩

/-- The run of the loops, as its two parts. -/
theorem built_eq : built = ⟨[busAt 0, busAt 1], ⟨none, "MIL-STD-1553 Buses", none⟩
    :: (passes 1441 1 ["BUS A", "BUS B"]).flatMap fun p => busRows p.1 p.2⟩ := by
  have hrun := (allocates_mapM buildBus_allocates ["BUS A", "BUS B"]).run_eq
    [⟨none, "MIL-STD-1553 Buses", none⟩]
  have hbuses : ((passes 1441 1 ["BUS A", "BUS B"]).map fun p =>
      (⟨p.2, (List.range RT_COUNT).map fun rt =>
        ⟨p.2 + 1 + 45 * rt, (List.range SA_COUNT).map (p.2 + 1 + 45 * rt + 1 + ·)⟩⟩ : Bus))
      = [busAt 0, busAt 1] := rfl
  simp only [built, hrun]
  rw [← hbuses]
  rfl

theorem busList_eq : built.busList = [busAt 0, busAt 1] := by
  rw [built_eq]

theorem built_items : built.items = ⟨none, "MIL-STD-1553 Buses", none⟩
    :: (passes 1441 1 ["BUS A", "BUS B"]).flatMap fun p => busRows p.1 p.2 := by
  rw [built_eq]

/-- The row of an item of a terminal. -/
def RtItem.row (bus rt j : Nat) : RtItem → TreeItem
  | .self => ⟨some bus, "RT " ++ toString j, none⟩
  | .sa k => ⟨some rt, "SA " ++ toString k.val, none⟩
  | .modeCodes => ⟨some rt, "Mode Codes", none⟩
  | .mc m => ⟨some (rt + 33),
      "MC " ++ toString (modeCodeAt m).1 ++ ": " ++ (modeCodeAt m).2, some (modeCodeAt m).1⟩

theorem rtRows_slot (bus rt j : Nat) (item : RtItem) :
    (rtRows bus j rt)[item.slot]? = some (item.row bus rt j) := by
  have hsas : (saRows rt).length = 32 := by
    rw [saRows, List.length_map, List.length_range]
    rfl
  cases item with
  | self => rfl
  | sa k =>
      rw [RtItem.slot, rtRows, List.getElem?_cons_succ,
        List.getElem?_append_left (by rw [hsas]; exact k.isLt), saRows, List.getElem?_map,
        List.getElem?_range (show k.val < SA_COUNT from k.isLt)]
      rfl
  | modeCodes =>
      rw [RtItem.slot, rtRows, List.getElem?_cons_succ,
        List.getElem?_append_right (by rw [hsas]), hsas]
      rfl
  | mc m =>
      have hmode : modeCodeList[m.val]? = some (modeCodeAt m) := List.getElem?_eq_getElem m.isLt
      show (_ :: (saRows rt ++ modeCodeRows rt (rt + 33)))[m.val + 33 + 1]? = _
      rw [List.getElem?_cons_succ, List.getElem?_append_right (by rw [hsas]; omega), hsas,
        show m.val + 33 - 32 = m.val + 1 by omega, modeCodeRows, List.getElem?_cons_succ,
        List.getElem?_map, hmode]
      rfl

/-- The row of an item. -/
def TreePath.row : TreePath → TreeItem
  | .bus i => ⟨some 0, if i.val = 0 then "BUS A" else "BUS B", none⟩
  | .rt i j item => item.row (busId i) (rtId i j) j

/-- **The tree that is built** has every item in its place. -/
theorem built_row (p : TreePath) : built.items[itemId p]? = some p.row := by
  have hrt : ∀ bus rt n, (rtRows bus rt n).length = 45 :=
    fun bus rt => (buildRt_allocates bus rt).length
  have hbus : ∀ name n, (busRows name n).length = 1441 :=
    fun name => (buildBus_allocates name).length
  have hname : ∀ i : Fin 2,
      ["BUS A", "BUS B"][i.val]? = some (if i.val = 0 then "BUS A" else "BUS B") := by decide
  have hplace : ∀ (i : Fin 2) (r : Nat), r < 1441 →
      built.items[1441 * i.val + r + 1]?
        = (busRows (if i.val = 0 then "BUS A" else "BUS B") (busId i))[r]? := by
    intro i r hr
    rw [built_items, List.getElem?_cons_succ, getElem?_passes hbus hr, hname]
    rfl
  cases p with
  | bus i =>
      show built.items[1 + 1441 * i.val]? = _
      rw [Nat.add_comm, ← Nat.add_zero (1441 * i.val), hplace i 0 (by decide)]
      rfl
  | rt i j item =>
      have hslot := item.slot_lt
      have hj := j.isLt
      have hid : itemId (.rt i j item) = 1441 * i.val + (45 * j.val + item.slot + 1) + 1 := by
        show 1 + 1441 * i.val + (1 + 45 * j.val) + item.slot = _
        omega
      have hn : busId i + 1 + 45 * j.val = rtId i j := Nat.add_assoc _ _ _
      rw [hid, hplace i _ (by omega), busRows, List.getElem?_cons_succ,
        getElem?_blocks (hrt _) (by exact hj) hslot, rtRows_slot, hn]
      rfl

/-! ## The search finds what was built -/

theorem mem_busList {b : Bus} {i : Nat} (h : (b, i) ∈ built.busList.zipIdx) : i < 2 ∧ b = busAt i := by
  rw [busList_eq] at h
  rcases List.mem_cons.mp h with hfirst | hrest
  · cases hfirst
    exact ⟨by decide, rfl⟩
  · cases List.mem_singleton.mp hrest
    exact ⟨by decide, rfl⟩

theorem busAt_mem (i : Fin 2) : (busAt i, i.val) ∈ built.busList.zipIdx := by
  rw [busList_eq]
  rcases Fin.exists_fin_two.mp ⟨i, rfl⟩ with rfl | rfl
  · exact List.mem_cons_self
  · exact List.mem_cons_of_mem _ List.mem_cons_self

theorem mem_rtList {i j : Nat} {rt : Rt} (h : (rt, j) ∈ (busAt i).rtList.zipIdx) :
    j < 32 ∧ rt = ⟨rtId i j, (List.range SA_COUNT).map (rtId i j + 1 + ·)⟩ := by
  obtain ⟨hj, hrt⟩ := List.getElem?_eq_some_iff.mp (List.mem_zipIdx_iff_getElem?.mp h)
  have hlen : (busAt i).rtList.length = 32 := by
    rw [busAt, List.length_map, List.length_range]
    rfl
  refine ⟨hlen ▸ hj, hrt.symm.trans ?_⟩
  simp only [busAt, List.getElem_map, List.getElem_range, Nat.add_assoc, rtId]

theorem rtAt_mem (i : Nat) (j : Fin 32) :
    (⟨rtId i j, (List.range SA_COUNT).map (rtId i j + 1 + ·)⟩, j.val)
      ∈ (busAt i).rtList.zipIdx := by
  have hj : j.val < RT_COUNT := j.isLt
  rw [List.mem_zipIdx_iff_getElem?]
  simp only [busAt, List.getElem?_map, List.getElem?_range hj, Option.map_some, Nat.add_assoc, rtId]

theorem mem_saList {n k sa : Nat}
    (h : (sa, k) ∈ ((List.range SA_COUNT).map (n + 1 + ·)).zipIdx) : k < 32 ∧ sa = n + (k + 1) := by
  obtain ⟨hk, hsa⟩ := List.getElem?_eq_some_iff.mp (List.mem_zipIdx_iff_getElem?.mp h)
  rw [List.length_map, List.length_range] at hk
  rw [List.getElem_map, List.getElem_range] at hsa
  have hplace : n + 1 + k = sa := hsa
  exact ⟨hk, by rw [← hplace, Nat.add_assoc, Nat.add_comm 1]⟩

theorem saAt_mem (n : Nat) (k : Fin 32) :
    (n + (k.val + 1), k.val) ∈ ((List.range SA_COUNT).map (n + 1 + ·)).zipIdx := by
  have hk : k.val < SA_COUNT := k.isLt
  rw [List.mem_zipIdx_iff_getElem?, List.getElem?_map, List.getElem?_range hk]
  simp only [Option.map_some, Nat.add_assoc, Nat.add_comm 1]

/-- What the loops find is a bus, a terminal or a subaddress. -/
theorem searchModel_sound {clicked : Nat} {c : Criteria} (h : built.searchModel clicked = some c) :
    ∃ p : TreePath, itemId p = clicked ∧ p.criteria = some c := by
  obtain ⟨⟨bus, i⟩, hbus, hi⟩ := List.exists_of_findSome?_eq_some h
  obtain ⟨hi2, rfl⟩ := mem_busList hbus
  simp only at hi
  split at hi
  · rename_i hclicked
    exact ⟨.bus ⟨i, hi2⟩, hclicked, hi⟩
  · obtain ⟨⟨rt, j⟩, hrt, hj⟩ := List.exists_of_findSome?_eq_some hi
    obtain ⟨hj32, rfl⟩ := mem_rtList hrt
    simp only at hj
    split at hj
    · rename_i hclicked
      exact ⟨.rt ⟨i, hi2⟩ ⟨j, hj32⟩ .self, hclicked, hj⟩
    · obtain ⟨⟨sa, k⟩, hsa, hk⟩ := List.exists_of_findSome?_eq_some hj
      obtain ⟨hk32, rfl⟩ := mem_saList hsa
      obtain ⟨hclicked, hc⟩ := Option.ite_none_right_eq_some.mp hk
      exact ⟨.rt ⟨i, hi2⟩ ⟨j, hj32⟩ (.sa ⟨k, hk32⟩), hclicked, hc⟩

/-- What they find for a mode code is its terminal. -/
theorem searchModeCode_sound {mc busItem rtItem : Nat} {c : Criteria}
    (h : built.searchModeCode mc busItem rtItem = some c) :
    ∃ (i : Fin 2) (j : Fin 32), busId i = busItem ∧ rtId i j = rtItem ∧
      c = ⟨busLetter i, j, -1, mc⟩ := by
  obtain ⟨⟨bus, i⟩, hbus, hi⟩ := List.exists_of_findSome?_eq_some h
  obtain ⟨hi2, rfl⟩ := mem_busList hbus
  obtain ⟨hbusItem, hfound⟩ := Option.ite_none_right_eq_some.mp hi
  obtain ⟨⟨rt, j⟩, hrt, hj⟩ := List.exists_of_findSome?_eq_some hfound
  obtain ⟨hj32, rfl⟩ := mem_rtList hrt
  obtain ⟨hrtItem, hc⟩ := Option.ite_none_right_eq_some.mp hj
  exact ⟨⟨i, hi2⟩, ⟨j, hj32⟩, hbusItem, hrtItem, (Option.some.inj hc).symm⟩

/-- The loops find every terminal of a mode code. -/
theorem searchModeCode_isSome (mc : Nat) (i : Fin 2) (j : Fin 32) :
    (built.searchModeCode mc (busId i) (rtId i j)).isSome = true := by
  refine List.findSome?_isSome_iff.mpr ⟨_, busAt_mem i, ?_⟩
  dsimp only
  rw [if_pos (show (busAt i).treeObject = busId i from rfl)]
  refine List.findSome?_isSome_iff.mpr ⟨_, rtAt_mem i j, ?_⟩
  dsimp only
  rw [if_pos rfl]
  rfl

/-- They find every bus, terminal and subaddress. -/
theorem searchModel_isSome {p : TreePath} {c : Criteria} (hmc : p.row.mc = none)
    (hc : p.criteria = some c) : (built.searchModel (itemId p)).isSome = true := by
  cases p with
  | bus i =>
      refine List.findSome?_isSome_iff.mpr ⟨_, busAt_mem i, ?_⟩
      dsimp only
      rw [if_pos (show (busAt i).treeObject = itemId (.bus i) from rfl)]
      rfl
  | rt i j item =>
      refine List.findSome?_isSome_iff.mpr ⟨_, busAt_mem i, ?_⟩
      dsimp only
      split
      · rfl
      · refine List.findSome?_isSome_iff.mpr ⟨_, rtAt_mem i j, ?_⟩
        dsimp only
        split
        · rfl
        · rename_i hrt
          cases item with
          | self => exact absurd rfl hrt
          | sa k =>
              refine List.findSome?_isSome_iff.mpr ⟨_, saAt_mem _ k, ?_⟩
              dsimp only
              rw [if_pos (show rtId i j + (k.val + 1) = itemId (.rt i j (.sa k)) from rfl)]
              rfl
          | modeCodes => cases hc
          | mc m => cases hmc

theorem getItemParent_itemId (p : TreePath) : built.getItemParent (itemId p) = p.row.parent := by
  rw [Tree.getItemParent, built_row, Option.bind_some]

theorem modeCodeOf_itemId (p : TreePath) : built.modeCodeOf (itemId p) = p.row.mc := by
  rw [Tree.modeCodeOf, built_row, Option.bind_some]

/-- **The search undoes the construction**, path by path. -/
theorem searchItem_itemId (p : TreePath) : built.searchItem (itemId p) = p.criteria := by
  have hmodel : p.row.mc = none → built.searchItem (itemId p) = p.criteria := by
    intro hmc
    rw [Tree.searchItem_of_none ((modeCodeOf_itemId p).trans hmc)]
    cases hc : p.criteria with
    | none =>
        refine Option.eq_none_iff_forall_ne_some.mpr fun c hfound => ?_
        obtain ⟨q, hq, hcriteria⟩ := searchModel_sound hfound
        rw [itemId_inj hq, hc] at hcriteria
        cases hcriteria
    | some c =>
        obtain ⟨c', hfound⟩ := Option.isSome_iff_exists.mp (searchModel_isSome hmc hc)
        obtain ⟨q, hq, hcriteria⟩ := searchModel_sound hfound
        rw [itemId_inj hq, hc] at hcriteria
        rw [hfound, hcriteria]
  cases p with
  | bus i => exact hmodel rfl
  | rt i j item =>
      cases item with
      | self => exact hmodel rfl
      | sa k => exact hmodel rfl
      | modeCodes => exact hmodel rfl
      | mc m =>
          -- two items up is the terminal, and above it the bus
          have hsearch := Tree.searchItem_of_some (modeCodeOf_itemId (.rt i j (.mc m)))
            (getItemParent_itemId (.rt i j (.mc m))) (getItemParent_itemId (.rt i j .modeCodes))
            (getItemParent_itemId (.rt i j .self))
          obtain ⟨c, hc⟩ := Option.isSome_iff_exists.mp
            (searchModeCode_isSome (modeCodeAt m).1 i j)
          obtain ⟨i', j', -, hj, rfl⟩ := searchModeCode_sound hc
          have hsame : TreePath.rt i' j' .self = .rt i j .self := itemId_inj hj
          cases hsame
          exact hsearch.trans hc

/-- Every item but the root has a path. -/
theorem exists_path {n : Nat} {item : TreeItem} (h : built.items[n]? = some item) :
    n = 0 ∨ ∃ p, itemId p = n := by
  have hlen : built.items.length = 2 * 1441 + 1 := by
    rw [built_items, List.length_cons,
      (allocates_mapM buildBus_allocates ["BUS A", "BUS B"]).length 1]
    generalize 1441 = k
    rfl
  obtain ⟨hn, -⟩ := List.getElem?_eq_some_iff.mp h
  rw [hlen] at hn
  cases n with
  | zero => exact Or.inl rfl
  | succ n =>
      right
      have hi : n / 1441 < 2 := by omega
      have hdiv := Nat.div_add_mod n 1441
      by_cases hself : n % 1441 = 0
      · exact ⟨.bus ⟨n / 1441, hi⟩, by show 1 + 1441 * (n / 1441) = n + 1; omega⟩
      · have hr : n % 1441 - 1 < 1440 := by omega
        generalize hrest : n % 1441 - 1 = r at hr
        have hj : r / 45 < 32 := by omega
        have hslot : r % 45 < 45 := Nat.mod_lt _ (by decide)
        have hdivr := Nat.div_add_mod r 45
        have hitem : ∃ item : RtItem, item.slot = r % 45 := by
          generalize r % 45 = s at hslot
          rcases Nat.lt_trichotomy s 33 with hs | hs | hs
          · cases s with
            | zero => exact ⟨.self, rfl⟩
            | succ k => exact ⟨.sa ⟨k, by omega⟩, rfl⟩
          · exact ⟨.modeCodes, hs.symm⟩
          · exact ⟨.mc ⟨s - 34, by omega⟩, by show s - 34 + 34 = s; omega⟩
        obtain ⟨item, hitem⟩ := hitem
        refine ⟨.rt ⟨n / 1441, hi⟩ ⟨r / 45, hj⟩ item, ?_⟩
        show 1 + 1441 * (n / 1441) + (1 + 45 * (r / 45)) + item.slot = n + 1
        rw [hitem]
        omega

/-- What the search finds is what some item stands for. -/
theorem searchItem_sound {clicked : Nat} {c : Criteria} (h : built.searchItem clicked = some c) :
    ∃ p, itemId p = clicked ∧ p.criteria = some c := by
  cases hmc : built.modeCodeOf clicked with
  | none =>
      rw [Tree.searchItem_of_none hmc] at h
      exact searchModel_sound h
  | some mc =>
      obtain ⟨item, hitem, -⟩ := Option.bind_eq_some_iff.mp hmc
      rcases exists_path hitem with rfl | ⟨p, rfl⟩
      · rw [Tree.modeCodeOf, built_items] at hmc
        cases hmc
      · exact ⟨p, rfl, (searchItem_itemId p).symm.trans h⟩

/-- **What a click in the tree sets** is what the item stands for: every item but the
    root and the ones above the mode codes names criteria, and no other criteria are
    ever set. -/
theorem searchItem_iff (clicked : Nat) (c : Criteria) :
    built.searchItem clicked = some c ↔ ∃ p, itemId p = clicked ∧ p.criteria = some c := by
  refine ⟨searchItem_sound, ?_⟩
  rintro ⟨p, rfl, hc⟩
  rw [searchItem_itemId, hc]

end TcpView
