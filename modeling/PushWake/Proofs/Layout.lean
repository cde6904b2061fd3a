import PushWake.Json.Printer
import PushWake.Json.Reader

/-!
# Layouts

The compact and the indented text of a value differ in nothing but blanks. A layout says where
blanks stand: before an item or a closing bracket at a depth, and after a colon. What is said of the
text in any layout (`laid`) holds of both.
-/

namespace PushWake.Json

/-- Where blanks stand in a text. -/
structure Layout where
  /-- Before an item, a member or a closing bracket at the given depth. -/
  gap : Nat → List Char
  afterColon : List Char
  gap_blank : ∀ depth, ∀ x ∈ gap depth, Cursor.isBlank x = true
  afterColon_blank : ∀ x ∈ afterColon, Cursor.isBlank x = true

mutual

/-- The text of a value that stands at the given depth. -/
def laid (l : Layout) (depth : Nat) : Json → List Char
  | .null => ['n', 'u', 'l', 'l']
  | .bool true => ['t', 'r', 'u', 'e']
  | .bool false => ['f', 'a', 'l', 's', 'e']
  | .number n => n.text.toList
  | .string s => stringChars s
  | .array [] => ['[', ']']
  | .array (item :: rest) =>
    '[' :: (l.gap (depth + 1) ++ (laid l (depth + 1) item ++ laidItems l depth rest))
  | .object [] => ['\x7b', '\x7d']
  | .object ((name, value) :: rest) =>
    '\x7b' :: (l.gap (depth + 1) ++ (stringChars name ++ ':' :: (l.afterColon ++
      (laid l (depth + 1) value ++ laidMembers l depth rest))))

/-- The items after the first, up to the closing bracket. -/
def laidItems (l : Layout) (depth : Nat) : List Json → List Char
  | [] => l.gap depth ++ [']']
  | item :: rest =>
    ',' :: (l.gap (depth + 1) ++ (laid l (depth + 1) item ++ laidItems l depth rest))

/-- The members after the first, up to the closing brace. -/
def laidMembers (l : Layout) (depth : Nat) : List (String × Json) → List Char
  | [] => l.gap depth ++ ['\x7d']
  | (name, value) :: rest =>
    ',' :: (l.gap (depth + 1) ++ (stringChars name ++ ':' :: (l.afterColon ++
      (laid l (depth + 1) value ++ laidMembers l depth rest))))

end

namespace Layout

/-- No blank at all. -/
def compact : Layout where
  gap _ := []
  afterColon := []
  gap_blank _ _ hx := by cases hx
  afterColon_blank _ hx := by cases hx

/-- Every item and every member on a line of its own. -/
def indented : Layout where
  gap := lineBreak
  afterColon := [' ']
  gap_blank depth x hx := by
    rcases List.mem_cons.mp hx with rfl | hx
    · rfl
    · rw [List.eq_of_mem_replicate hx]
      rfl
  afterColon_blank x hx := by
    rw [List.mem_singleton.mp hx]
    rfl

@[simp] theorem compact_gap (depth : Nat) : compact.gap depth = [] := rfl

@[simp] theorem compact_afterColon : compact.afterColon = [] := rfl

@[simp] theorem indented_gap (depth : Nat) : indented.gap depth = lineBreak depth := rfl

@[simp] theorem indented_afterColon : indented.afterColon = [' '] := rfl

end Layout

mutual

/-- The compact layout is what the compact printer writes. -/
theorem laid_compact : ∀ (depth : Nat) (v : Json), laid .compact depth v = chars v
  | _, .null | _, .number _ | _, .string _ | _, .array [] | _, .object [] => rfl
  | _, .bool b => by cases b <;> rfl
  | depth, .array (item :: rest) => by
    simp [laid, chars, laid_compact (depth + 1) item, laidItems_compact depth rest]
  | depth, .object ((name, value) :: rest) => by
    simp [laid, chars, laid_compact (depth + 1) value, laidMembers_compact depth rest]

theorem laidItems_compact : ∀ (depth : Nat) (items : List Json),
    laidItems .compact depth items = itemChars items
  | _, [] => rfl
  | depth, item :: rest => by
    simp [laidItems, itemChars, laid_compact (depth + 1) item, laidItems_compact depth rest]

theorem laidMembers_compact : ∀ (depth : Nat) (members : List (String × Json)),
    laidMembers .compact depth members = memberChars members
  | _, [] => rfl
  | depth, (name, value) :: rest => by
    simp [laidMembers, memberChars, laid_compact (depth + 1) value, laidMembers_compact depth rest]

end

mutual

/-- The indented layout is what the printer writes that breaks lines. -/
theorem laid_indented : ∀ (depth : Nat) (v : Json), laid .indented depth v = prettyChars depth v
  | _, .null | _, .number _ | _, .string _ | _, .array [] | _, .object [] => rfl
  | _, .bool b => by cases b <;> rfl
  | depth, .array (item :: rest) => by
    simp [laid, prettyChars, laid_indented (depth + 1) item, laidItems_indented depth rest]
  | depth, .object ((name, value) :: rest) => by
    simp [laid, prettyChars, laid_indented (depth + 1) value, laidMembers_indented depth rest]

theorem laidItems_indented : ∀ (depth : Nat) (items : List Json),
    laidItems .indented depth items = prettyItemChars depth items
  | _, [] => rfl
  | depth, item :: rest => by
    simp [laidItems, prettyItemChars, laid_indented (depth + 1) item,
      laidItems_indented depth rest]

theorem laidMembers_indented : ∀ (depth : Nat) (members : List (String × Json)),
    laidMembers .indented depth members = prettyMemberChars depth members
  | _, [] => rfl
  | depth, (name, value) :: rest => by
    simp [laidMembers, prettyMemberChars, laid_indented (depth + 1) value,
      laidMembers_indented depth rest]

end

end PushWake.Json
