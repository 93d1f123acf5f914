import DungeonForge.Dungeon.Tag
import DungeonForge.Json.Value

/-!
Findings of the design rules. A finding holds what is wrong and where; its rule, severity, subject
and message follow from that. Three rules only warn.
-/

namespace DungeonForge

inductive Severity
  | warning | error
deriving DecidableEq, Repr

def Severity.text : Severity → String
  | .warning => "warning"
  | .error => "error"

inductive Rule
  | duplicateRoomName | invalidConnection | selfConnection | asymmetricConnection
  | invalidProbability | trapInPuzzle | missingCombatRoom | invalidShopSize | bossRoomSize
  | bossRoomConnections | tooManyTreasureRooms | isolatedRoom | negativeHealth
deriving DecidableEq, Repr

namespace Rule

def code : Rule → String
  | .duplicateRoomName => "duplicate-room-name"
  | .invalidConnection => "invalid-connection"
  | .selfConnection => "self-connection"
  | .asymmetricConnection => "asymmetric-connection"
  | .invalidProbability => "invalid-probability"
  | .trapInPuzzle => "trap-in-puzzle"
  | .missingCombatRoom => "missing-combat-room"
  | .invalidShopSize => "invalid-shop-size"
  | .bossRoomSize => "boss-room-size"
  | .bossRoomConnections => "boss-room-connections"
  | .tooManyTreasureRooms => "too-many-treasure-rooms"
  | .isolatedRoom => "isolated-room"
  | .negativeHealth => "negative-health"

def severity : Rule → Severity
  | .missingCombatRoom | .bossRoomConnections | .tooManyTreasureRooms => .warning
  | _ => .error

end Rule

instance : Tagged Rule where
  variants := [.duplicateRoomName, .invalidConnection, .selfConnection, .asymmetricConnection,
    .invalidProbability, .trapInPuzzle, .missingCombatRoom, .invalidShopSize, .bossRoomSize,
    .bossRoomConnections, .tooManyTreasureRooms, .isolatedRoom, .negativeHealth]
  tag := Rule.code

inductive Finding
  | duplicateRoomName (room : String)
  | invalidConnection (room target : String)
  | selfConnection (room : String)
  | asymmetricConnection (room target : String)
  | invalidProbability (trap : String) (chance : Int32)
  | trapInPuzzle (trap : String)
  | missingCombatRoom (floor : String)
  | invalidShopSize (room : String)
  | bossRoomSize (room : String)
  | bossRoomConnections (room : String)
  | tooManyTreasureRooms (floor : String) (limit : Nat)
  | isolatedRoom (room : String)
  | negativeHealth (npc : String) (health : Int32)
deriving DecidableEq, Repr

namespace Finding

def rule : Finding → Rule
  | .duplicateRoomName _ => .duplicateRoomName
  | .invalidConnection _ _ => .invalidConnection
  | .selfConnection _ => .selfConnection
  | .asymmetricConnection _ _ => .asymmetricConnection
  | .invalidProbability _ _ => .invalidProbability
  | .trapInPuzzle _ => .trapInPuzzle
  | .missingCombatRoom _ => .missingCombatRoom
  | .invalidShopSize _ => .invalidShopSize
  | .bossRoomSize _ => .bossRoomSize
  | .bossRoomConnections _ => .bossRoomConnections
  | .tooManyTreasureRooms _ _ => .tooManyTreasureRooms
  | .isolatedRoom _ => .isolatedRoom
  | .negativeHealth _ _ => .negativeHealth

def severity (f : Finding) : Severity :=
  f.rule.severity

/-- The name of the room, floor, trap or inhabitant that the finding is about. -/
def subject : Finding → String
  | .duplicateRoomName room => room
  | .invalidConnection room _ => room
  | .selfConnection room => room
  | .asymmetricConnection room _ => room
  | .invalidProbability trap _ => trap
  | .trapInPuzzle trap => trap
  | .missingCombatRoom floor => floor
  | .invalidShopSize room => room
  | .bossRoomSize room => room
  | .bossRoomConnections room => room
  | .tooManyTreasureRooms floor _ => floor
  | .isolatedRoom room => room
  | .negativeHealth npc _ => npc

def message : Finding → String
  | .duplicateRoomName room => "Room name '" ++ room ++ "' is duplicated"
  | .invalidConnection _ target => "Unknown connection: no room named '" ++ target ++ "'"
  | .selfConnection _ => "A room cannot connect to itself"
  | .asymmetricConnection room target =>
    "Connections must be symmetric: '" ++ room ++ "' <-> '" ++ target ++ "'"
  | .invalidProbability _ chance =>
    "triggerChance must be 0-100 (found " ++ toString chance.toInt ++ ")"
  | .trapInPuzzle _ => "Non-disarmable traps cannot be placed in PUZZLE rooms"
  | .missingCombatRoom _ => "Each floor should contain at least one COMBAT room"
  | .invalidShopSize _ => "SHOP rooms must be SMALL or MEDIUM (found LARGE)"
  | .bossRoomSize _ => "Boss rooms must be LARGE"
  | .bossRoomConnections _ => "Boss rooms should have at most one entrance"
  | .tooManyTreasureRooms _ limit =>
    "Too many treasure rooms on this floor (max recommended: " ++ toString limit ++ ")"
  | .isolatedRoom room => "Room '" ++ room ++ "' is isolated and not connected to other rooms"
  | .negativeHealth _ health =>
    "health must not be negative (found " ++ toString health.toInt ++ ")"

def line (f : Finding) : String :=
  f.severity.text ++ " [" ++ f.rule.code ++ "]: " ++ f.message

def toJson (f : Finding) : Json.Value :=
  .object [("code", .string f.rule.code), ("severity", .string f.severity.text),
    ("subject", .string f.subject), ("message", .string f.message)]

end Finding

structure Report where
  findings : List Finding
deriving DecidableEq, Repr

namespace Report

def withSeverity (r : Report) (s : Severity) : List Finding :=
  r.findings.filter fun f => f.severity = s

def errors (r : Report) : List Finding :=
  r.withSeverity .error

def warnings (r : Report) : List Finding :=
  r.withSeverity .warning

def hasErrors (r : Report) : Bool :=
  !r.errors.isEmpty

def isClean (r : Report) : Bool :=
  r.findings.isEmpty

def toJson (r : Report) : Json.Value :=
  .object [("diagnostics", .array (r.findings.map Finding.toJson))]

end Report

end DungeonForge
