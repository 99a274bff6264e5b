import BrokerClient.Proofs.Fallible
import BrokerClient.Settings.Environment
import Mathlib.Tactic.SplitIfs

/-!
# Settings that variables give

What it takes for variables to give settings, and what these are: each number that is set can be read,
each flag that is set is a word for on or off, some endpoint is named, and the settings pass
`validate`.
-/

namespace BrokerClient.Settings

variable {lookup : Lookup} {settings : Settings}

/-- The number that a variable denotes, if it is set and denotes one. -/
def numberDenoted (lookup : Lookup) (name : String) (bound : Nat) : Option Nat :=
  (lookup.text name).bind fun value => (Text.natBelow bound (Text.trim value)).toOption

/-- The flag that a variable denotes, if it is set. -/
def flagDenoted (lookup : Lookup) (name : String) : Option Bool :=
  (lookup.text name).map fun value =>
    decide (Text.lowerAscii (Text.trim value) ∈ ["1", "true", "yes", "on"])

theorem numberDenoted_eq {name : String} {bound : Nat} {n? : Option Nat}
    (hread : numberVariable lookup name bound = .ok n?) : numberDenoted lookup name bound = n? := by
  rw [numberVariable] at hread
  rw [numberDenoted]
  cases htext : lookup.text name with
  | none =>
      rw [htext] at hread
      exact Except.ok.inj hread
  | some value =>
      rw [htext] at hread
      dsimp only at hread
      rw [Option.bind_some]
      cases hnumber : Text.natBelow bound (Text.trim value) with
      | error cause => rw [hnumber] at hread; cases hread
      | ok n =>
          rw [hnumber] at hread
          exact Except.ok.inj hread

/-- A flag that is not set is off. -/
theorem flagDenoted_getD {name : String} {b : Bool} (hread : flagVariable lookup name = .ok b) :
    (flagDenoted lookup name).getD false = b := by
  rw [flagVariable] at hread
  rw [flagDenoted]
  cases htext : lookup.text name with
  | none =>
      rw [htext] at hread
      exact Except.ok.inj hread
  | some value =>
      rw [htext] at hread
      dsimp only at hread
      split_ifs at hread with hon
      · rw [Option.map_some, Option.getD_some, decide_eq_true hon]
        exact Except.ok.inj hread
      · rw [Option.map_some, Option.getD_some, decide_eq_false hon]
        exact Except.ok.inj hread

/-- The settings that variables give, if they can be read and are not refused. -/
def denoted (lookup : Lookup) : Settings :=
  let queue := (lookup.text "RABBITMQ_QUEUE").getD defaultQueue
  { connection :=
      { endpoints := endpointVariables lookup
        uri := none
        reconnectSeconds := ((numberDenoted lookup "RABBITMQ_RECONNECT_DELAY_SECONDS" UInt64.size).map
          UInt64.ofNat).getD ConnectionSettings.standard.reconnectSeconds }
    consumer :=
      { queue
        autoAck := (flagDenoted lookup "RABBITMQ_AUTO_ACK").getD false
        exclusive := (flagDenoted lookup "RABBITMQ_EXCLUSIVE").getD false
        noLocal := (flagDenoted lookup "RABBITMQ_NO_LOCAL").getD false
        prefetchCount := ((numberDenoted lookup "RABBITMQ_PREFETCH_COUNT" UInt16.size).map
          UInt16.ofNat).getD ConsumerSettings.standard.prefetchCount
        prefetchSize := ((numberDenoted lookup "RABBITMQ_PREFETCH_SIZE" UInt32.size).map
          UInt32.ofNat).getD 0
        prefetchGlobal := (flagDenoted lookup "RABBITMQ_PREFETCH_GLOBAL").getD false
        arguments := [] }
    publisher :=
      { exchange := (lookup.text "RABBITMQ_EXCHANGE").getD ""
        routingKey := (lookup.text "RABBITMQ_ROUTING_KEY").getD queue } }

/-- Variables that give settings name an endpoint, and the settings are those denoted and pass
`validate`. -/
theorem ofVariables_cases (haccepted : ofVariables lookup = .ok settings) :
    endpointVariables lookup ≠ [] ∧ settings = denoted lookup ∧ settings.validate = .ok () := by
  rw [ofVariables] at haccepted
  dsimp only at haccepted
  split_ifs at haccepted with hnone
  · obtain ⟨_, hthrow, -⟩ := bind_eq_ok.mp haccepted
    cases hthrow
  · simp only [bind_eq_ok] at haccepted
    obtain ⟨_, hdelay, _, hack, _, hexclusive, _, hlocal, _, hcount, _, hsize, _, hglobal, hchecked⟩ :=
      haccepted
    rw [← numberDenoted_eq hdelay, ← flagDenoted_getD hack, ← flagDenoted_getD hexclusive,
      ← flagDenoted_getD hlocal, ← numberDenoted_eq hcount, ← numberDenoted_eq hsize,
      ← flagDenoted_getD hglobal] at hchecked
    split at hchecked
    · rename_i hvalid
      obtain rfl := Except.ok.inj hchecked
      exact ⟨by simpa using hnone, rfl, hvalid⟩
    · cases hchecked

/-! ## One check after the other -/

/-- What a variable is read as. -/
inductive Kind
  | number (bound : Nat)
  | flag

/-- The variables that are read as numbers and flags, in the order in which they are. -/
def checkedVariables : List (String × Kind) :=
  [("RABBITMQ_RECONNECT_DELAY_SECONDS", .number UInt64.size), ("RABBITMQ_AUTO_ACK", .flag),
    ("RABBITMQ_EXCLUSIVE", .flag), ("RABBITMQ_NO_LOCAL", .flag),
    ("RABBITMQ_PREFETCH_COUNT", .number UInt16.size),
    ("RABBITMQ_PREFETCH_SIZE", .number UInt32.size), ("RABBITMQ_PREFETCH_GLOBAL", .flag)]

/-- Can the variable be read? -/
def check (lookup : Lookup) : String × Kind → Except VariableFault Unit
  | (name, .number bound) => (numberVariable lookup name bound).map fun _ => ()
  | (name, .flag) => (flagVariable lookup name).map fun _ => ()

/-- To read a number is to check the variable and to take what it denotes. -/
theorem numberVariable_bind {β : Type} (lookup : Lookup) (name : String) (bound : Nat)
    (next : Option Nat → Except VariableFault β) :
    (numberVariable lookup name bound >>= next) =
      check lookup (name, .number bound) >>= fun _ => next (numberDenoted lookup name bound) := by
  rw [check]
  cases hread : numberVariable lookup name bound with
  | error fault => rfl
  | ok n? =>
      rw [numberDenoted_eq hread]
      rfl

/-- To read a flag is to check the variable and to take what it denotes. -/
theorem flagVariable_bind {β : Type} (lookup : Lookup) (name : String)
    (next : Bool → Except VariableFault β) :
    (flagVariable lookup name >>= next) =
      check lookup (name, .flag) >>= fun _ => next ((flagDenoted lookup name).getD false) := by
  rw [check]
  cases hread : flagVariable lookup name with
  | error fault => rfl
  | ok b =>
      rw [flagDenoted_getD hread]
      rfl

/-- Once an endpoint is named, the variables are checked one after the other, and then what they denote
is. -/
theorem ofVariables_eq (hsome : endpointVariables lookup ≠ []) :
    ofVariables lookup = checkedVariables.forM (check lookup) >>= fun _ =>
      match (denoted lookup).validate with
      | .ok () => .ok (denoted lookup)
      | .error cause => .error (.refused cause) := by
  rw [ofVariables]
  dsimp only
  rw [if_neg (by simpa using hsome)]
  simp only [numberVariable_bind, flagVariable_bind, checkedVariables, List.forM, bind_assoc,
    pure_bind]
  rfl

end BrokerClient.Settings
