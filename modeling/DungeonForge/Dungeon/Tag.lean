/-!
The closed enumerations of a dungeon and the textual tags that stand for them in manifests and
documents. Tags are matched exactly; a trigger has a second accepted spelling.
-/

namespace DungeonForge

class Tagged (α : Type) where
  variants : List α
  tag : α → String
  /-- Further texts that are read as the variant but never written. -/
  otherSpellings : α → List String := fun _ => []

namespace Tagged

variable {α : Type} [Tagged α]

def spellings (a : α) : List String :=
  tag a :: otherSpellings a

def ofText? (text : String) : Option α :=
  variants.find? fun a => (spellings a).contains text

end Tagged

inductive Size
  | large | medium | small
deriving DecidableEq, Repr

inductive RoomKind
  | combat | treasure | boss | puzzle | shop
deriving DecidableEq, Repr

inductive Trigger
  | stepOn | openDoor
deriving DecidableEq, Repr

inductive Behaviour
  | aggressive | neutral
deriving DecidableEq, Repr

inductive NpcKind
  | merchant | enemy | normal
deriving DecidableEq, Repr

def Size.tag : Size → String
  | .large => "LARGE"
  | .medium => "MEDIUM"
  | .small => "SMALL"

def RoomKind.tag : RoomKind → String
  | .combat => "COMBAT"
  | .treasure => "TREASURE"
  | .boss => "BOSS"
  | .puzzle => "PUZZLE"
  | .shop => "SHOP"

def Trigger.tag : Trigger → String
  | .stepOn => "stepOn"
  | .openDoor => "openDoor"

/-- A trigger is also read from its upper-case name. -/
def Trigger.upperName : Trigger → String
  | .stepOn => "STEP_ON"
  | .openDoor => "OPEN_DOOR"

def Behaviour.tag : Behaviour → String
  | .aggressive => "AGGRESSIVE"
  | .neutral => "NEUTRAL"

def NpcKind.tag : NpcKind → String
  | .merchant => "MERCHANT"
  | .enemy => "ENEMY"
  | .normal => "NORMAL"

instance : Tagged Size where
  variants := [.large, .medium, .small]
  tag := Size.tag

instance : Tagged RoomKind where
  variants := [.combat, .treasure, .boss, .puzzle, .shop]
  tag := RoomKind.tag

instance : Tagged Trigger where
  variants := [.stepOn, .openDoor]
  tag := Trigger.tag
  otherSpellings t := [t.upperName]

instance : Tagged Behaviour where
  variants := [.aggressive, .neutral]
  tag := Behaviour.tag

instance : Tagged NpcKind where
  variants := [.merchant, .enemy, .normal]
  tag := NpcKind.tag

theorem Size.ofText?_tag (s : Size) : Tagged.ofText? s.tag = some s := by
  cases s <;> decide

theorem RoomKind.ofText?_tag (k : RoomKind) : Tagged.ofText? k.tag = some k := by
  cases k <;> decide

theorem Trigger.ofText?_tag (t : Trigger) : Tagged.ofText? t.tag = some t := by
  cases t <;> decide

theorem Trigger.ofText?_upperName (t : Trigger) : Tagged.ofText? t.upperName = some t := by
  cases t <;> decide

theorem Behaviour.ofText?_tag (b : Behaviour) : Tagged.ofText? b.tag = some b := by
  cases b <;> decide

theorem NpcKind.ofText?_tag (k : NpcKind) : Tagged.ofText? k.tag = some k := by
  cases k <;> decide

end DungeonForge
