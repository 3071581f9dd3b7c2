import Mathlib.Init

/-!
# `Infrarust.Protocol.Version`: protocol versions, states and directions
-/

set_option autoImplicit false

namespace Infrarust

/-- `ProtocolVersion`, the number a client sends in its handshake. -/
structure ProtocolVersion where
  num : Int
deriving DecidableEq, Repr

namespace ProtocolVersion

def V1_7_2 : ProtocolVersion := ⟨4⟩
def V1_7_6 : ProtocolVersion := ⟨5⟩
def V1_8 : ProtocolVersion := ⟨47⟩
def V1_9 : ProtocolVersion := ⟨107⟩
def V1_12 : ProtocolVersion := ⟨335⟩
def V1_12_1 : ProtocolVersion := ⟨338⟩
def V1_13 : ProtocolVersion := ⟨393⟩
def V1_14 : ProtocolVersion := ⟨477⟩
def V1_15 : ProtocolVersion := ⟨573⟩
def V1_16 : ProtocolVersion := ⟨735⟩
def V1_16_2 : ProtocolVersion := ⟨751⟩
def V1_17 : ProtocolVersion := ⟨755⟩
def V1_18 : ProtocolVersion := ⟨757⟩
def V1_19 : ProtocolVersion := ⟨759⟩
def V1_19_1 : ProtocolVersion := ⟨760⟩
def V1_19_3 : ProtocolVersion := ⟨761⟩
def V1_19_4 : ProtocolVersion := ⟨762⟩
def V1_20_2 : ProtocolVersion := ⟨764⟩
def V1_20_3 : ProtocolVersion := ⟨765⟩
def V1_20_5 : ProtocolVersion := ⟨766⟩
def V1_21 : ProtocolVersion := ⟨767⟩
def V1_21_2 : ProtocolVersion := ⟨768⟩
def V1_21_5 : ProtocolVersion := ⟨770⟩
def V1_21_6 : ProtocolVersion := ⟨771⟩
def V1_21_9 : ProtocolVersion := ⟨773⟩

def SUPPORTED : List ProtocolVersion :=
  [4, 5, 47, 107, 109, 110, 335, 338, 340, 393, 477, 573, 735, 751, 754, 755, 757, 758, 759,
    760, 761, 762, 763, 764, 765, 766, 767, 768, 769, 770, 771, 772, 773, 774].map mk

def lessThan (v other : ProtocolVersion) : Bool := v.num < other.num

def noLessThan (v other : ProtocolVersion) : Bool := other.num ≤ v.num

def noGreaterThan (v other : ProtocolVersion) : Bool := v.num ≤ other.num

theorem lessThan_iff {v other : ProtocolVersion} : v.lessThan other ↔ v.num < other.num :=
  decide_eq_true_iff

theorem noLessThan_iff {v other : ProtocolVersion} : v.noLessThan other ↔ other.num ≤ v.num :=
  decide_eq_true_iff

/-- `ProtocolVersion::range`: the supported versions between two, both included. -/
def range (first last : ProtocolVersion) : List ProtocolVersion :=
  SUPPORTED.filter fun v => first.num ≤ v.num && v.num ≤ last.num

end ProtocolVersion

inductive ConnectionState where
  | handshake
  | status
  | login
  | config
  | play
deriving DecidableEq, Repr

inductive Direction where
  | serverbound
  | clientbound
deriving DecidableEq, Repr

/-- The `Debug` text of a state. -/
def ConnectionState.debug : ConnectionState → String
  | .handshake => "Handshake"
  | .status => "Status"
  | .login => "Login"
  | .config => "Config"
  | .play => "Play"

/-- The `Debug` text of a version. -/
def ProtocolVersion.debug (v : ProtocolVersion) : String :=
  "ProtocolVersion(" ++ toString v.num ++ ")"

/-- The `Display` text of a state. -/
def ConnectionState.display : ConnectionState → String
  | .handshake => "handshake"
  | .status => "status"
  | .login => "login"
  | .config => "config"
  | .play => "play"

def ConnectionState.handshakeId : ConnectionState → Option (BitVec 32)
  | .status => some 1#32
  | .login => some 2#32
  | .handshake | .config | .play => none

/-- `ConnectionState::from_handshake_id`. A transfer is handled as a login. -/
def ConnectionState.fromHandshakeId (id : Int) : Option ConnectionState :=
  if id = 1 then some .status else if id = 2 ∨ id = 3 then some .login else none

end Infrarust
