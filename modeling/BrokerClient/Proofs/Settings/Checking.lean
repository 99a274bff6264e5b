import BrokerClient.Proofs.Settings.Naming
import BrokerClient.Proofs.Text.Decimal

/-!
# What variables must be

Once an endpoint is named, variables give settings exactly if each number and each flag among them
is not set, blank, or of its kind, and the delay is not zero.  Each setting is then what its variable
denotes, or the default.  If they give none, the report names the first variable that is not of its
kind; that the delay is zero is said only when all of them are (`Settings.ofVariables_checked`).
-/

namespace BrokerClient.Settings

variable {lookup : Lookup} {name : String} {bound : Nat}

/-! ## What a variable may be -/

/-- The words for a flag that is on or off. -/
def flagWords : Bool → List String
  | true => ["1", "true", "yes", "on"]
  | false => ["0", "false", "no", "off"]

/-- May a variable that is read as this kind have the text? -/
def Kind.Admits (text : String) : Kind → Prop
  | number bound => ∃ n < bound, Text.IsNumber (Text.trim text) n
  | flag => ∃ b, Text.lowerAscii (Text.trim text) ∈ flagWords b

/-- Is the variable not set, or blank, or of its kind? -/
def Sound (lookup : Lookup) (entry : String × Kind) : Prop :=
  ∀ value, lookup.text entry.1 = some value → entry.2.Admits value

/-- What is reported of a variable with a text that it may not have. -/
def complaint (value : String) : String × Kind → String
  | (name, .number _) => "Invalid value for " ++ name
  | (name, .flag) =>
    "Invalid boolean for " ++ name ++ ": " ++ Text.lowerAscii (Text.trim value)

theorem sound_of_text_none {entry : String × Kind} (hnone : lookup.text entry.1 = none) :
    Sound lookup entry := by
  intro value hset
  cases hnone.symm.trans hset

theorem sound_iff_of_text {entry : String × Kind} {value : String}
    (hset : lookup.text entry.1 = some value) : Sound lookup entry ↔ entry.2.Admits value := by
  constructor
  · exact fun hsound => hsound value hset
  · intro hadmits other hother
    cases hset.symm.trans hother
    exact hadmits

/-- A number can be read if it is sound; if not, that is what is reported. -/
theorem check_number (lookup : Lookup) (name : String) (bound : Nat) :
    check lookup (name, .number bound) = .ok () ∧ Sound lookup (name, .number bound) ∨
      ∃ fault value, check lookup (name, .number bound) = .error fault ∧
        lookup.text name = some value ∧ ¬ (Kind.number bound).Admits value ∧
        fault.report.message = complaint value (name, .number bound) := by
  rw [check, numberVariable]
  cases hset : lookup.text name with
  | none => exact .inl ⟨rfl, sound_of_text_none hset⟩
  | some value =>
      dsimp only
      cases hread : Text.natBelow bound (Text.trim value) with
      | ok n =>
          obtain ⟨hnumber, hlt⟩ := Text.natBelow_eq_ok.mp hread
          exact .inl ⟨rfl, (sound_iff_of_text hset).mpr ⟨n, hlt, hnumber⟩⟩
      | error cause =>
          refine .inr ⟨_, value, rfl, rfl, ?_, rfl⟩
          rintro ⟨n, hlt, hnumber⟩
          cases hread.symm.trans (Text.natBelow_eq_ok.mpr ⟨hnumber, hlt⟩)

/-- A flag can be read if it is sound; if not, that is what is reported. -/
theorem check_flag (lookup : Lookup) (name : String) :
    check lookup (name, .flag) = .ok () ∧ Sound lookup (name, .flag) ∨
      ∃ fault value, check lookup (name, .flag) = .error fault ∧
        lookup.text name = some value ∧ ¬ Kind.flag.Admits value ∧
        fault.report.message = complaint value (name, .flag) := by
  rw [check, flagVariable]
  cases hset : lookup.text name with
  | none => exact .inl ⟨rfl, sound_of_text_none hset⟩
  | some value =>
      dsimp only
      split_ifs with hon hoff
      · exact .inl ⟨rfl, (sound_iff_of_text hset).mpr ⟨true, hon⟩⟩
      · exact .inl ⟨rfl, (sound_iff_of_text hset).mpr ⟨false, hoff⟩⟩
      · refine .inr ⟨_, value, rfl, rfl, ?_, rfl⟩
        rintro ⟨b, hmem⟩
        cases b with
        | true => exact hon hmem
        | false => exact hoff hmem

theorem check_cases (lookup : Lookup) (entry : String × Kind) :
    check lookup entry = .ok () ∧ Sound lookup entry ∨
      ∃ fault value, check lookup entry = .error fault ∧ lookup.text entry.1 = some value ∧
        ¬ entry.2.Admits value ∧ fault.report.message = complaint value entry := by
  obtain ⟨name, kind⟩ := entry
  cases kind with
  | number bound => exact check_number lookup name bound
  | flag => exact check_flag lookup name

theorem check_eq_ok {entry : String × Kind} : check lookup entry = .ok () ↔ Sound lookup entry := by
  rcases check_cases lookup entry with ⟨hok, hsound⟩ | ⟨fault, value, herror, hset, hrefused, -⟩
  · exact iff_of_true hok hsound
  · refine iff_of_false (fun hok => ?_) fun hsound => hrefused (hsound value hset)
    cases herror.symm.trans hok

/-! ## What a variable denotes -/

/-- The number is the one that the variable denotes, or the default if it is not set or blank. -/
def NumberFrom (lookup : Lookup) (name : String) (default n : Nat) : Prop :=
  match lookup.text name with
  | none => n = default
  | some value => Text.IsNumber (Text.trim value) n

/-- The flag is on or off as the variable says, and off if it is not set or blank. -/
def FlagFrom (lookup : Lookup) (name : String) (b : Bool) : Prop :=
  match lookup.text name with
  | none => b = false
  | some value => Text.lowerAscii (Text.trim value) ∈ flagWords b

/-- The settings are what the variables denote, with the defaults for those that are not set or
blank. -/
structure FromVariables (lookup : Lookup) (settings : Settings) : Prop where
  reconnectSeconds : NumberFrom lookup "RABBITMQ_RECONNECT_DELAY_SECONDS" 5
    settings.connection.reconnectSeconds.toNat
  autoAck : FlagFrom lookup "RABBITMQ_AUTO_ACK" settings.consumer.autoAck
  exclusive : FlagFrom lookup "RABBITMQ_EXCLUSIVE" settings.consumer.exclusive
  noLocal : FlagFrom lookup "RABBITMQ_NO_LOCAL" settings.consumer.noLocal
  prefetchCount : NumberFrom lookup "RABBITMQ_PREFETCH_COUNT" 10
    settings.consumer.prefetchCount.toNat
  prefetchSize : NumberFrom lookup "RABBITMQ_PREFETCH_SIZE" 0 settings.consumer.prefetchSize.toNat
  prefetchGlobal : FlagFrom lookup "RABBITMQ_PREFETCH_GLOBAL" settings.consumer.prefetchGlobal
  queue : settings.consumer.queue = (lookup.text "RABBITMQ_QUEUE").getD "events"
  exchange : settings.publisher.exchange = (lookup.text "RABBITMQ_EXCHANGE").getD ""
  routingKey : settings.publisher.routingKey =
    (lookup.text "RABBITMQ_ROUTING_KEY").getD settings.consumer.queue

/-- Is the delay zero, as the variable has it? -/
def ZeroDelay (lookup : Lookup) : Prop :=
  NumberFrom lookup "RABBITMQ_RECONNECT_DELAY_SECONDS" 5 0

theorem NumberFrom.unique {default n m : Nat} (hn : NumberFrom lookup name default n)
    (hm : NumberFrom lookup name default m) : n = m := by
  rw [NumberFrom] at hn hm
  cases hset : lookup.text name with
  | none =>
      rw [hset] at hn hm
      exact hn.trans hm.symm
  | some value =>
      rw [hset] at hn hm
      exact Text.IsNumber.unique hn hm

/-- A number that is sound is below its bound, and it is what the variable denotes. -/
theorem numberDenoted_of_sound (hsound : Sound lookup (name, .number bound)) (default : Nat) :
    NumberFrom lookup name default ((numberDenoted lookup name bound).getD default) ∧
      ∀ n, numberDenoted lookup name bound = some n → n < bound := by
  rw [NumberFrom, numberDenoted]
  cases hset : lookup.text name with
  | none =>
      refine ⟨rfl, ?_⟩
      rintro _ ⟨⟩
  | some value =>
      obtain ⟨n, hlt, hnumber⟩ := hsound value hset
      rw [Option.bind_some, Text.natBelow_eq_ok.mpr ⟨hnumber, hlt⟩]
      refine ⟨hnumber, fun m hm => ?_⟩
      cases hm
      exact hlt

theorem flagDenoted_of_sound (hsound : Sound lookup (name, .flag)) :
    FlagFrom lookup name ((flagDenoted lookup name).getD false) := by
  rw [FlagFrom, flagDenoted]
  cases hset : lookup.text name with
  | none => rfl
  | some value =>
      obtain ⟨b, hmem⟩ := hsound value hset
      dsimp only [Option.map_some, Option.getD_some]
      by_cases hon : Text.lowerAscii (Text.trim value) ∈ ["1", "true", "yes", "on"]
      · rw [decide_eq_true hon]
        exact hon
      · rw [decide_eq_false hon]
        cases b with
        | true => exact absurd hmem hon
        | false => exact hmem

/-- The word that is taken for a variable's number is that number, or the default. -/
theorem numberFrom_word {α : Type} (ofNat : Nat → α) (toNat : α → Nat)
    (hfits : ∀ n < bound, toNat (ofNat n) = n) (hsound : Sound lookup (name, .number bound))
    (default : α) :
    NumberFrom lookup name (toNat default)
      (toNat (((numberDenoted lookup name bound).map ofNat).getD default)) := by
  obtain ⟨hnumber, hlt⟩ := numberDenoted_of_sound hsound (toNat default)
  have hword : toNat (((numberDenoted lookup name bound).map ofNat).getD default) =
      (numberDenoted lookup name bound).getD (toNat default) := by
    cases hdenoted : numberDenoted lookup name bound with
    | none => rfl
    | some n => exact hfits n (hlt n hdenoted)
  rw [hword]
  exact hnumber

/-! ## The checks together -/

/-- Variables that are sound denote the settings that they give. -/
theorem fromVariables_denoted (hsound : ∀ entry ∈ checkedVariables, Sound lookup entry) :
    FromVariables lookup (denoted lookup) where
  reconnectSeconds := numberFrom_word UInt64.ofNat UInt64.toNat
    (fun _ hlt => UInt64.toNat_ofNat_of_lt hlt) (hsound _ (by simp [checkedVariables])) 5
  autoAck := flagDenoted_of_sound (hsound _ (by simp [checkedVariables]))
  exclusive := flagDenoted_of_sound (hsound _ (by simp [checkedVariables]))
  noLocal := flagDenoted_of_sound (hsound _ (by simp [checkedVariables]))
  prefetchCount := numberFrom_word UInt16.ofNat UInt16.toNat
    (fun _ hlt => UInt16.toNat_ofNat_of_lt hlt) (hsound _ (by simp [checkedVariables])) 10
  prefetchSize := numberFrom_word UInt32.ofNat UInt32.toNat
    (fun _ hlt => UInt32.toNat_ofNat_of_lt hlt) (hsound _ (by simp [checkedVariables])) 0
  prefetchGlobal := flagDenoted_of_sound (hsound _ (by simp [checkedVariables]))
  queue := rfl
  exchange := rfl
  routingKey := rfl

/-- Settings that variables denote and that name an endpoint are refused only for a zero delay. -/
theorem validate_denoted (hsome : endpointVariables lookup ≠ [])
    (hfrom : FromVariables lookup (denoted lookup)) :
    ZeroDelay lookup ∧ (denoted lookup).validate = .error .zeroReconnectDelay ∨
      ¬ ZeroDelay lookup ∧ (denoted lookup).validate = .ok () := by
  have hendpoints : (denoted lookup).endpoints.isEmpty = false := by
    simpa [endpoints, denoted] using hsome
  have hqueue : (denoted lookup).consumer.queue.isEmpty = false := by
    rw [hfrom.queue]
    cases hset : lookup.text "RABBITMQ_QUEUE" with
    | none => decide
    | some queue =>
        obtain ⟨-, c, hmem, -⟩ := text_eq_some.mp hset
        rw [Option.getD_some, ← Bool.not_eq_true, String.isEmpty_iff]
        rintro rfl
        cases hmem
  rw [validate, if_neg (by simp [hendpoints]), if_neg (by simp [hqueue])]
  split_ifs with hzero
  · have hdelay := hfrom.reconnectSeconds
    rw [hzero] at hdelay
    exact .inl ⟨hdelay, rfl⟩
  · refine .inr ⟨fun hdelay => hzero ?_, rfl⟩
    exact UInt64.toNat_inj.mp (hfrom.reconnectSeconds.unique hdelay)

/-- What comes of variables that name an endpoint: one of them is the first that is not sound, or
all are and the delay is zero, or the settings that they denote are given. -/
theorem ofVariables_result (hsome : endpointVariables lookup ≠ []) :
    (∃ fault before entry after value, ofVariables lookup = .error fault ∧
      checkedVariables = before ++ entry :: after ∧ (∀ earlier ∈ before, Sound lookup earlier) ∧
      lookup.text entry.1 = some value ∧ ¬ entry.2.Admits value ∧
      fault.report.message = complaint value entry) ∨
    (∀ entry ∈ checkedVariables, Sound lookup entry) ∧
      (ZeroDelay lookup ∧ ofVariables lookup = .error (.refused .zeroReconnectDelay) ∨
        ¬ ZeroDelay lookup ∧ ofVariables lookup = .ok (denoted lookup)) := by
  rw [ofVariables_eq hsome]
  cases hchecked : checkedVariables.forM (check lookup) with
  | error fault =>
      obtain ⟨before, entry, after, hsplit, hbefore, hentry⟩ := forM_eq_error.mp hchecked
      have hsound : ∀ earlier ∈ before, Sound lookup earlier := fun earlier hmem =>
        check_eq_ok.mp (hbefore earlier hmem)
      rcases check_cases lookup entry with ⟨hok, -⟩ | ⟨_, value, hfault, hset, hrefused, hmessage⟩
      · cases hentry.symm.trans hok
      · cases hentry.symm.trans hfault
        exact .inl ⟨fault, before, entry, after, value, rfl, hsplit, hsound, hset, hrefused,
          hmessage⟩
  | ok _ =>
      have hsound : ∀ entry ∈ checkedVariables, Sound lookup entry := fun entry hmem =>
        check_eq_ok.mp (forM_eq_ok.mp hchecked entry hmem)
      refine .inr ⟨hsound, ?_⟩
      rcases validate_denoted hsome (fromVariables_denoted hsound) with ⟨hzero, hrefused⟩ |
        ⟨hpositive, hvalid⟩
      · rw [hrefused]
        exact .inl ⟨hzero, rfl⟩
      · rw [hvalid]
        exact .inr ⟨hpositive, rfl⟩

/-- An endpoint is named if the list names one, or if it is not set or blank and the single address
names one. -/
theorem endpointVariables_ne_nil
    (hnamed : named lookup "RABBITMQ_URLS" ≠ [] ∨
      lookup.text "RABBITMQ_URLS" = none ∧ named lookup "RABBITMQ_URL" ≠ []) :
    endpointVariables lookup ≠ [] := by
  rw [endpointVariables_eq]
  rcases hnamed with hlist | ⟨hnone, hurl⟩
  · have hset : (lookup.text "RABBITMQ_URLS").isSome = true := by
      rw [Option.isSome_iff_ne_none]
      exact fun hnone => hlist (named_of_text_none hnone)
    rwa [if_pos hset]
  · rwa [hnone]

/-- Given an endpoint, variables give settings exactly if all that are checked are sound and the
delay is not zero.  The settings are those that the variables denote; a failure names the first
variable that is not sound, or the delay of zero if all are. -/
theorem ofVariables_checked
    (hnamed : named lookup "RABBITMQ_URLS" ≠ [] ∨
      lookup.text "RABBITMQ_URLS" = none ∧ named lookup "RABBITMQ_URL" ≠ []) :
    ((∃ settings, ofVariables lookup = .ok settings) ↔
      (∀ entry ∈ checkedVariables, Sound lookup entry) ∧ ¬ ZeroDelay lookup) ∧
    (∀ settings, ofVariables lookup = .ok settings → FromVariables lookup settings) ∧
    ∀ fault, ofVariables lookup = .error fault →
      (∃ before entry after value, checkedVariables = before ++ entry :: after ∧
        (∀ earlier ∈ before, Sound lookup earlier) ∧
        lookup.text entry.1 = some value ∧ ¬ entry.2.Admits value ∧
        fault.report.message = complaint value entry) ∨
      (∀ entry ∈ checkedVariables, Sound lookup entry) ∧ ZeroDelay lookup ∧
        fault.report.message =
          "Configuration error: connection.reconnect_delay_seconds must be at least 1" := by
  rcases ofVariables_result (endpointVariables_ne_nil hnamed) with
    ⟨fault, before, entry, after, value, hfault, hsplit, hbefore, hset, hrefused, hmessage⟩ |
    ⟨hsound, ⟨hzero, hfault⟩ | ⟨hpositive, hgiven⟩⟩
  · have hunsound : ¬ ∀ entry ∈ checkedVariables, Sound lookup entry := fun hsound =>
      hrefused (hsound entry (by simp [hsplit]) value hset)
    rw [hfault]
    refine ⟨iff_of_false nofun fun h => hunsound h.1, nofun, fun _ hsame => .inl ?_⟩
    cases hsame
    exact ⟨before, entry, after, value, hsplit, hbefore, hset, hrefused, hmessage⟩
  · rw [hfault]
    refine ⟨iff_of_false nofun fun h => h.2 hzero, nofun, fun _ hsame => .inr ⟨hsound, hzero, ?_⟩⟩
    cases hsame
    rfl
  · rw [hgiven]
    refine ⟨iff_of_true ⟨_, rfl⟩ ⟨hsound, hpositive⟩, fun settings hsame => ?_, nofun⟩
    cases hsame
    exact fromVariables_denoted hsound

/-- Variables that name a broker and a number of deliveries to be sent ahead. -/
def prefetching (count : String) : Lookup
  | "RABBITMQ_URL" => some "amqp://a"
  | "RABBITMQ_PREFETCH_COUNT" => some count
  | _ => none

/-- The greatest number that is accepted, and the next one. -/
theorem ofVariables_checked_prefetching :
    (ofVariables (prefetching " +65535 ") = .ok (denoted (prefetching " +65535 ")) ∧
      FromVariables (prefetching " +65535 ") (denoted (prefetching " +65535 ")) ∧
      (denoted (prefetching " +65535 ")).consumer.prefetchCount = 65535) ∧
    ofVariables (prefetching "65536") = .error (.badNumber "RABBITMQ_PREFETCH_COUNT" .tooLarge) ∧
      ¬ ((∀ entry ∈ checkedVariables, Sound (prefetching "65536") entry) ∧
        ¬ ZeroDelay (prefetching "65536")) := by
  have hgiven : ofVariables (prefetching " +65535 ") = .ok (denoted (prefetching " +65535 ")) := rfl
  have hrefused : ofVariables (prefetching "65536") =
      .error (.badNumber "RABBITMQ_PREFETCH_COUNT" .tooLarge) := rfl
  refine ⟨⟨hgiven, (ofVariables_checked (.inr ⟨rfl, by decide⟩)).2.1 _ hgiven, by decide⟩,
    hrefused, ?_⟩
  rw [← (ofVariables_checked (.inr ⟨rfl, by decide⟩)).1, hrefused]
  exact nofun

end BrokerClient.Settings
