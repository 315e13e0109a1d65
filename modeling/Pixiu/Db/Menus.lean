/-
**The menu queries of the user DAO: two `LEFT JOIN`s that keep every menu.**

`GetButtonsByUserID(uid, menuId)` and `GetLeftMenusByUserID(uid)` send one statement each:

    SELECT menu.* FROM menu
      LEFT JOIN role_menu ON menu.id = role_menu.menu_id
      LEFT JOIN user_role ON user_role.user_id = role_menu.role_id AND user_role.user_id = uid
      WHERE <cond> ORDER BY parent_id ASC, sequence ASC

with `<cond>` the buttons under `menuId` (`menu_type = 2 and parent_id = menuId`) or the left
menus (`menu_type = 1`). A `LEFT JOIN` keeps every row of its left side, and the `WHERE` reads the
menu's own columns only, so the user's roles select nothing: every menu that satisfies `<cond>`
comes back, for every user. What the user changes is how often: a menu comes back once per
`role_menu` row of the menu (once if it has none), and a `role_menu` row whose role id equals the
user id (the second join compares `user_role.user_id` with `role_menu.role_id`) once per
`user_role` row of the user.

* `map_fst_leftJoin` — the left rows of a `LEFT JOIN` are its left side, each repeated once per
  match, at least once;
* `map_menuJoins` — the menus of the two joins are every menu, repeated `copies` times;
* `scanMenus_ok` — the scan is a sorted permutation of the menus that satisfy the condition,
  each repeated `copies` times;
* **`menuQueries_ignore_user`** — for both DAO calls: the menus returned are exactly the menus of
  the condition, whatever the user and the role tables hold, sorted as asked and repeated
  `copies` times.

`getTreeMenus`, which `GetLeftMenusByUserID` applies to the scanned menus, is not part of the
source given, and is a parameter of the model.
-/

import Pixiu.Db.UserRoles
import Mathlib.Data.List.Sort

namespace Pixiu.Db

/-! ## Part 1 — the tables and the statement -/

/-- `model.Menu`, by the columns the menu queries select, but the key `id`. -/
structure Menu where
  parentId : Int
  name : String
  url : String
  icon : String
  sequence : Int
  code : String
  method : String
  menuType : Int
deriving DecidableEq, Repr

/-- A `role_menu` row, by the two columns the joins read. -/
structure RoleMenu where
  roleId : Int
  menuId : Int
deriving DecidableEq, Repr

/-- The tables the menu queries read. -/
structure MenuDb where
  menus : Table Menu
  roleMenus : Table RoleMenu
  userRoles : Table UserRole

section LeftJoin

variable {α β : Type}

/-- One left row of a `LEFT JOIN`: with each right row it matches, or once with `NULL`s when it
matches none. -/
def leftJoinRow (right : List β) (joinOn : α → β → Bool) (l : α) : List (α × Option β) :=
  match right.filter (joinOn l) with
  | [] => [(l, none)]
  | found => found.map fun r => (l, some r)

/-- `left LEFT JOIN right ON joinOn`. -/
def leftJoin (left : List α) (right : List β) (joinOn : α → β → Bool) : List (α × Option β) :=
  left.flatMap (leftJoinRow right joinOn)

end LeftJoin

/-- `menu.id = role_menu.menu_id`. -/
def linksMenu (menu : Int × Menu) (link : Int × RoleMenu) : Bool :=
  link.2.menuId = menu.1

/-- `user_role.user_id = role_menu.role_id and user_role.user_id = uid`. A row the first join
left without a `role_menu` row compares with `NULL`, which no row satisfies. -/
def grantsLink (uid : Int) (row : (Int × Menu) × Option (Int × RoleMenu))
    (grant : Int × UserRole) : Bool :=
  match row.2 with
  | some link => grant.2.userId = link.2.roleId && grant.2.userId = uid
  | none => false

/-- The two `Joins` of the menu queries, on every row of the three tables. -/
def menuJoins (db : MenuDb) (uid : Int) :
    List (((Int × Menu) × Option (Int × RoleMenu)) × Option (Int × UserRole)) :=
  leftJoin (leftJoin (db.menus.find fun _ => true) (db.roleMenus.find fun _ => true) linksMenu)
    (db.userRoles.find fun _ => true) (grantsLink uid)

/-- `Order("parent_id ASC").Order("sequence ASC")`. -/
def menuOrder (a b : Int × Menu) : Prop :=
  a.2.parentId < b.2.parentId ∨ a.2.parentId = b.2.parentId ∧ a.2.sequence ≤ b.2.sequence

instance : DecidableRel menuOrder := fun a b =>
  inferInstanceAs (Decidable (a.2.parentId < b.2.parentId ∨
    a.2.parentId = b.2.parentId ∧ a.2.sequence ≤ b.2.sequence))

instance : IsTotal (Int × Menu) menuOrder := ⟨fun a b => by unfold menuOrder; omega⟩

instance : IsTrans (Int × Menu) menuOrder := ⟨fun a b c => by unfold menuOrder; omega⟩

/-- `Table("menu").Select(...).Joins(...).Joins(...).Where(cond).Order(...).Scan(&menus)`, which
fails with `scanFault`, if any: the menu columns of the joined rows whose menu satisfies `cond`,
in the order asked for. SQL leaves the order of rows with equal keys open; the model keeps the
joins' order there. -/
def scanMenus (scanFault : Option Error) (cond : Menu → Bool) (db : MenuDb) (uid : Int) :
    Except Error (List (Int × Menu)) :=
  match scanFault with
  | some e => .error e
  | none => .ok (((menuJoins db uid).filter fun row => cond row.1.1.2).map (·.1.1)
      |>.insertionSort menuOrder)

/-- `user.GetButtonsByUserID`: `Where("menu.menu_type = 2 and menu.parent_id = ?", menuId)`. -/
def getButtonsByUserID (scanFault : Option Error) (db : MenuDb) (uid menuId : Int) :
    Except Error (List (Int × Menu)) :=
  scanMenus scanFault (fun menu => menu.menuType = 2 && menu.parentId = menuId) db uid

/-- `user.GetLeftMenusByUserID`: `Where("menu.menu_type = 1")`, and the tree `getTreeMenus`
builds from the menus, from the root `0`. -/
def getLeftMenusByUserID {T : Type} (getTreeMenus : List (Int × Menu) → Int → T)
    (scanFault : Option Error) (db : MenuDb) (uid : Int) : Except Error T :=
  (scanMenus scanFault (fun menu => menu.menuType = 1) db uid).map (getTreeMenus · 0)

/-- How many joined rows carry the menu of key `id` for user `uid`: one for each `role_menu` row
of the menu, or one if it has none; and for a `role_menu` row whose role id is `uid`, one for each
`user_role` row of user `uid`, at least one. -/
def copies (db : MenuDb) (uid id : Int) : Nat :=
  match db.roleMenus.find fun link => link.menuId = id with
  | [] => 1
  | links => (links.map fun link =>
      if link.2.roleId = uid then max 1 (rolesOf db.userRoles uid).length else 1).foldr (· + ·) 0

/-! ## Part 2 — a `LEFT JOIN` keeps its left side -/

section LeftJoin

variable {α β : Type}

/-- **The left rows of a `LEFT JOIN` are its left side**, each repeated once per right row it
matches, and once if it matches none. -/
theorem map_fst_leftJoin (left : List α) (right : List β) (joinOn : α → β → Bool) :
    (leftJoin left right joinOn).map Prod.fst =
      left.flatMap fun l => List.replicate (max 1 (right.filter (joinOn l)).length) l := by
  simp only [leftJoin, List.map_flatMap]
  congr 1
  funext l
  unfold leftJoinRow
  cases right.filter (joinOn l) with
  | nil => rfl
  | cons r rest => simp [Function.comp_def, List.replicate_succ, List.map_const']

end LeftJoin

theorem flatMap_replicate_eq {α β : Type} (l : List α) (n : α → Nat) (b : β) :
    (l.flatMap fun a => List.replicate (n a) b) =
      List.replicate ((l.map n).foldr (· + ·) 0) b := by
  induction l with
  | nil => rfl
  | cons a rest ih =>
    simp only [List.flatMap_cons, List.map_cons, List.foldr_cons, ih, List.replicate_add]

theorem filter_flatMap_replicate {α : Type} (l : List α) (n : α → Nat) (p : α → Bool) :
    (l.flatMap fun a => List.replicate (n a) a).filter p =
      (l.filter p).flatMap fun a => List.replicate (n a) a := by
  induction l with
  | nil => rfl
  | cons a rest ih => by_cases sat : p a <;> simp [List.filter_cons, sat, ih, List.filter_replicate]

/-! ## Part 3 — what the statement returns -/

/-- The `user_role` rows the second join matches with a `role_menu` row: the user's, when the
row's role id is the user id, and none otherwise. -/
theorem grantsLink_length (db : MenuDb) (uid : Int) (menu : Int × Menu)
    (link : Int × RoleMenu) :
    ((db.userRoles.find fun _ => true).filter (grantsLink uid (menu, some link))).length =
      if link.2.roleId = uid then (rolesOf db.userRoles uid).length else 0 := by
  split
  · rename_i same
    have grants :
        grantsLink uid (menu, some link) = fun grant => decide (grant.2.userId = uid) := by
      funext grant
      simp [grantsLink, same]
    rw [grants, Table.filter_find_all db.userRoles fun row => row.userId = uid, rolesOf,
      List.length_map]
  · rename_i other
    rw [List.length_eq_zero, List.filter_eq_nil_iff]
    intro grant _
    simp only [grantsLink, Bool.and_eq_true, decide_eq_true_eq, not_and]
    exact fun toLink toUser => other (toLink ▸ toUser)

theorem copies_pos (db : MenuDb) (uid id : Int) : 0 < copies db uid id := by
  unfold copies
  cases db.roleMenus.find fun link => link.menuId = id with
  | nil => exact Nat.one_pos
  | cons link rest =>
    simp only [List.map_cons, List.foldr_cons]
    have first :
        0 < if link.2.roleId = uid then max 1 (rolesOf db.userRoles uid).length else 1 := by
      split <;> omega
    omega

/-- The joined rows of one menu carry it `copies` times. -/
theorem flatMap_leftJoinRow (db : MenuDb) (uid : Int) (menu : Int × Menu) :
    (leftJoinRow (db.roleMenus.find fun _ => true) linksMenu menu).flatMap
        (fun row => List.replicate
          (max 1 ((db.userRoles.find fun _ => true).filter (grantsLink uid row)).length) row.1) =
      List.replicate (copies db uid menu.1) menu := by
  have links : (db.roleMenus.find fun _ => true).filter (linksMenu menu) =
      db.roleMenus.find fun link => link.menuId = menu.1 :=
    Table.filter_find_all db.roleMenus fun link => link.menuId = menu.1
  unfold leftJoinRow copies
  rw [links]
  cases db.roleMenus.find fun link => link.menuId = menu.1 with
  | nil =>
    have unlinked : grantsLink uid (menu, none) = fun _ => false := rfl
    rw [List.flatMap_singleton, unlinked, List.filter_false]
    rfl
  | cons link rest =>
    rw [List.flatMap_map, flatMap_replicate_eq]
    congr 2
    refine List.map_congr_left fun link' _ => ?_
    rw [grantsLink_length]
    split <;> rfl

/-- **The menus of the two joins are every menu, each repeated `copies` times.** -/
theorem map_menuJoins (db : MenuDb) (uid : Int) :
    (menuJoins db uid).map (·.1.1) = (db.menus.find fun _ => true).flatMap
      fun menu => List.replicate (copies db uid menu.1) menu := by
  calc (menuJoins db uid).map (·.1.1)
      = ((menuJoins db uid).map Prod.fst).map Prod.fst := by rw [List.map_map]; rfl
    _ = (leftJoin (db.menus.find fun _ => true) (db.roleMenus.find fun _ => true)
          linksMenu).flatMap fun row => List.replicate (max 1
            ((db.userRoles.find fun _ => true).filter (grantsLink uid row)).length) row.1 := by
      rw [menuJoins, map_fst_leftJoin, List.map_flatMap]
      simp only [List.map_replicate]
    _ = _ := by
      rw [leftJoin, List.flatMap_assoc]
      exact congrArg _ (funext (flatMap_leftJoinRow db uid))

/-- **What the scan returns**: when it does not fail, the menus that satisfy the condition, each
repeated `copies` times, sorted by parent and sequence. -/
theorem scanMenus_ok (cond : Menu → Bool) (db : MenuDb) (uid : Int) :
    ∃ menus, scanMenus none cond db uid = .ok menus ∧
      menus.Perm ((db.menus.find cond).flatMap
        fun menu => List.replicate (copies db uid menu.1) menu) ∧
      menus.Sorted menuOrder := by
  refine ⟨_, rfl, (List.perm_insertionSort _ _).trans ?_, List.sorted_insertionSort _ _⟩
  have scanned : ((menuJoins db uid).filter fun row => cond row.1.1.2).map (·.1.1) =
      ((menuJoins db uid).map (·.1.1)).filter fun menu => cond menu.2 := by
    rw [List.filter_map]; rfl
  rw [scanned, map_menuJoins, filter_flatMap_replicate, Table.filter_find_all]

/-- A menu is among those the scan returns exactly when it satisfies the condition. -/
theorem mem_scanMenus {cond : Menu → Bool} {db : MenuDb} {uid : Int}
    {menus : List (Int × Menu)}
    (perm : menus.Perm ((db.menus.find cond).flatMap
      fun menu => List.replicate (copies db uid menu.1) menu)) (row : Int × Menu) :
    row ∈ menus ↔ row ∈ db.menus.find cond := by
  rw [perm.mem_iff, List.mem_flatMap]
  constructor
  · rintro ⟨menu, mem, copy⟩
    rw [(List.mem_replicate.mp copy).2]
    exact mem
  · exact fun mem => ⟨row, mem, List.mem_replicate.mpr ⟨(copies_pos db uid row.1).ne', rfl⟩⟩

/-! ## Part 4 — the two calls -/

/-- **The menu queries return the same menus to every user.** Whatever the user and whatever the
`role_menu` and `user_role` tables hold, `GetButtonsByUserID(uid, menuId)` returns exactly the
buttons under `menuId` (`menu_type = 2`), sorted by sequence, and `GetLeftMenusByUserID(uid)`
builds its tree from exactly the menus of type `1`, sorted by parent and sequence; each menu comes
back `copies` times, the only thing the user changes. -/
theorem menuQueries_ignore_user {T : Type} (getTreeMenus : List (Int × Menu) → Int → T)
    (db : MenuDb) (uid menuId : Int) :
    (∃ buttons, getButtonsByUserID none db uid menuId = .ok buttons ∧
      (∀ id menu, (id, menu) ∈ buttons ↔
        db.menus.first id = some menu ∧ menu.menuType = 2 ∧ menu.parentId = menuId) ∧
      buttons.Sorted (fun a b => a.2.sequence ≤ b.2.sequence) ∧
      buttons.Perm ((db.menus.find fun menu => menu.menuType = 2 && menu.parentId = menuId).flatMap
        fun menu => List.replicate (copies db uid menu.1) menu)) ∧
    ∃ menus, getLeftMenusByUserID getTreeMenus none db uid = .ok (getTreeMenus menus 0) ∧
      (∀ id menu, (id, menu) ∈ menus ↔ db.menus.first id = some menu ∧ menu.menuType = 1) ∧
      menus.Sorted menuOrder ∧
      menus.Perm ((db.menus.find fun menu => menu.menuType = 1).flatMap
        fun menu => List.replicate (copies db uid menu.1) menu) := by
  obtain ⟨buttons, scanned, perm, sorted⟩ :=
    scanMenus_ok (fun menu => menu.menuType = 2 && menu.parentId = menuId) db uid
  obtain ⟨menus, scanned', perm', sorted'⟩ := scanMenus_ok (fun menu => menu.menuType = 1) db uid
  have buttonsMem : ∀ id menu, (id, menu) ∈ buttons ↔
      db.menus.first id = some menu ∧ menu.menuType = 2 ∧ menu.parentId = menuId :=
    fun id menu => (mem_scanMenus perm (id, menu)).trans (by simp [Table.mem_find])
  refine ⟨⟨buttons, scanned, buttonsMem, ?_, perm⟩, menus, ?_,
    fun id menu => (mem_scanMenus perm' (id, menu)).trans (by simp [Table.mem_find]), sorted',
    perm'⟩
  · refine List.Pairwise.imp_of_mem (fun {a b} memA memB before => ?_) sorted
    have sameParent :=
      ((buttonsMem a.1 a.2).mp memA).2.2.trans ((buttonsMem b.1 b.2).mp memB).2.2.symm
    unfold menuOrder at before
    omega
  · rw [getLeftMenusByUserID, scanned']
    rfl

/-- A button under menu `1` that two roles reach comes back twice, to a user with no role. -/
example : (getButtonsByUserID none ⟨(Table.empty.create ⟨1, "add", "/users", "", 1, "user:add",
    "POST", 2⟩).2, ((Table.empty.create ⟨3, 1⟩).2.create ⟨5, 1⟩).2, Table.empty⟩ 7 1).map
    List.length = .ok 2 := by decide

end Pixiu.Db
