import Itinerary.Http.Settings
import Itinerary.NetworkId
import Itinerary.Server.Address
import Itinerary.Text.Blank

/-!
# Settings of the server

Where the server listens, where its timetable comes from, which network the timetable has to be of,
and the key with which it is fetched. They are read from named variables; only the place of the
timetable has to be given.
-/

namespace Itinerary.Server

/-- Where a timetable comes from. -/
inductive TimetableSource where
  | file (path : String)
  | url (address : String)
  deriving DecidableEq

namespace TimetableSource

/-- Whether a text starts with another one. -/
def startsWith (lead : String) (text : String) : Bool := lead.toList.isPrefixOf text.toList

/-- A place by its text: an address of the web, or else a file. -/
def ofText (text : String) : TimetableSource :=
  if startsWith "http://" text || startsWith "https://" text then url text else file text

def toJson : TimetableSource → Json
  | file path => .obj [("file", .str path)]
  | url address => .obj [("url", .str address)]

end TimetableSource

/-- Why there are no settings. -/
inductive SettingsDefect where
  | missingTimetable
  | badAddress (text : String)
  | badNetwork (violation : Violation)

/-- The defect in words. -/
def SettingsDefect.message : SettingsDefect → String
  | .missingTimetable => "TRANSIT_FIXTURES is not set"
  | .badAddress text => "invalid TRANSIT_BIND address " ++ Text.quoted text
  | .badNetwork violation => "invalid TRANSIT_NETWORK: " ++ violation.message

/-- The settings of the server. -/
structure Settings where
  address : Address
  timetable : TimetableSource
  network : Option NetworkId
  key : Option String
  deriving DecidableEq

namespace Settings

/-- The address to listen on unless another one is given. -/
def defaultAddress : Address := ⟨.v4 127 0 0 1, 0, 3000⟩

/-- The settings for a timetable about which nothing else is said. -/
def forTimetable (timetable : TimetableSource) : Settings :=
  ⟨defaultAddress, timetable, none, none⟩

/-- The address to listen on that a variable names. -/
def addressOf : Option String → Except SettingsDefect Address
  | none => .ok defaultAddress
  | some text =>
    match Address.ofText? text with
    | some address => .ok address
    | none => .error (.badAddress text)

/-- The network that a variable names. -/
def networkOf : Option String → Except SettingsDefect (Option NetworkId)
  | none => .ok none
  | some text =>
    match NetworkId.normalized text with
    | .ok network => .ok (some network)
    | .error violation => .error (.badNetwork violation)

/-- The settings in some variables. -/
def ofVariables (value? : String → Option String) : Except SettingsDefect Settings :=
  match (value? "TRANSIT_FIXTURES").filter fun s => !Text.isBlankText s with
  | none => .error .missingTimetable
  | some place => do
    let address ← addressOf (value? "TRANSIT_BIND")
    let network ← networkOf (value? "TRANSIT_NETWORK")
    pure ⟨address, .ofText place, network, value? "TRANSIT_API_KEY"⟩

/-- How the timetable is fetched, if it comes from the web. -/
def connection? (s : Settings) : Option Http.Settings :=
  match s.timetable with
  | .file _ => none
  | .url address => some { Http.Settings.forBase address with key := s.key }

def toJson (s : Settings) : Json :=
  .obj [("bind", .str s.address.text), ("ip", .str s.address.host.text),
    ("port", .int s.address.socket.toNat), ("fixtures", s.timetable.toJson),
    ("network", .opt NetworkId.toJson s.network), ("api_key", .optStr s.key),
    ("http", .opt Http.Settings.toJson s.connection?)]

end Settings

end Itinerary.Server
