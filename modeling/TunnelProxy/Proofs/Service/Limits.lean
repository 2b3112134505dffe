import Mathlib.Algebra.Group.Nat.Defs
import TunnelProxy.Proofs.Yaml.Record
import TunnelProxy.Service.Setup

/-!
# Time limits of configurations

A time limit is any number of seconds with 64 bits, and zero stands for none.  The listener waits in
milliseconds, for which there are 31 bits, and refuses a limit which is longer.  Where waiting ends at an
instant, this is exactly the limit later, as long as the clock goes so far.
-/

namespace TunnelProxy

/-! ## How time limits are written -/

namespace Config

open Yaml (Node IsOptional IsWord64)

/-- A time limit is written as a number of seconds; nothing and zero stand for none. -/
def IsLimit (node : Node) (limit : Option UInt64) : Prop :=
  ∃ written, IsOptional IsWord64 node written ∧ limit = written.filter (0 < ·)

theorem limit?_eq_some_iff (node : Node) (limit : Option UInt64) :
    limit? node = some limit ↔ IsLimit node limit := by
  rw [limit?, Option.map_eq_some_iff]
  simp only [Node.optional?_eq_some_iff Node.word64?_eq_some_iff]
  exact exists_congr fun written => and_congr_right fun _ => eq_comm

theorem IsLimit.ne_zero {node : Node} {limit : Option UInt64} (written : IsLimit node limit) :
    limit ≠ some 0 := by
  obtain ⟨seconds, -, rfl⟩ := written
  intro zero
  exact absurd (Option.filter_eq_some_iff.mp zero).2 (by decide)

end Config

/-! ## Waiting for a connection -/

namespace Duration

theorem decimal_whole (whole : Nat) : decimal whole 0 9 = toString whole := by
  have zeros : (((Nat.toDigits 10 (Nat.pow 10 9 + 0)).drop 1).reverse.dropWhile
      fun digit => digit = '0').reverse = [] := by
    decide +kernel
  simp only [decimal, zeros, List.isEmpty_nil, if_true]

theorem text_ofSeconds {seconds : UInt64} (positive : 0 < seconds.toNat) :
    (ofSeconds seconds).text = s!"{seconds.toNat}s" := by
  have whole : 0 < (ofSeconds seconds).seconds := positive
  rw [text, if_pos whole]
  exact congrArg (· ++ "s") (decimal_whole seconds.toNat)

/-- What waiting for a connection makes of a time limit. -/
inductive Waits : Option UInt64 → Except IoError Int → Prop
  /-- Without a limit it goes on for ever. -/
  | forever : Waits none (.ok (-1))
  /-- As many milliseconds as the limit has, if there are less than 2³¹. -/
  | millis {seconds : UInt64} (fits : seconds.toNat ≤ 2147483) :
      Waits (some seconds) (.ok (seconds.toNat * 1000))
  /-- A longer limit is refused. -/
  | refused {seconds : UInt64} (long : 2147483 < seconds.toNat) :
      Waits (some seconds) (.error ⟨.invalidInput, s!"timeout convert error: {seconds.toNat}s"⟩)

theorem waits_pollLimit (limit : Option UInt64) : Waits limit (pollLimit (limit.map .ofSeconds)) := by
  cases limit with
  | none => exact .forever
  | some seconds =>
      have millis_eq : (ofSeconds seconds).millis = seconds.toNat * 1000 := by
        change seconds.toNat * 1000 + 0 / 1000000 = seconds.toNat * 1000
        rw [Nat.zero_div, Nat.add_zero]
      have most : Nat.pow 2 31 = 2147483648 := rfl
      rw [Option.map_some, pollLimit, millis_eq, most]
      by_cases fits : seconds.toNat ≤ 2147483
      · rw [if_pos (by omega)]
        exact .millis fits
      · rw [if_neg (by omega), text_ofSeconds (by omega)]
        exact .refused (Nat.lt_of_not_le fits)

theorem Waits.eq_ok {seconds : UInt64} {wait : Except IoError Int} (waits : Waits (some seconds) wait)
    (fits : seconds.toNat ≤ 2147483) : wait = .ok (seconds.toNat * 1000) := by
  cases waits with
  | millis => rfl
  | refused long => exact absurd fits (Nat.not_le_of_lt long)

theorem Waits.eq_error {seconds : UInt64} {wait : Except IoError Int}
    (waits : Waits (some seconds) wait) (long : 2147483 < seconds.toNat) :
    wait = .error ⟨.invalidInput, s!"timeout convert error: {seconds.toNat}s"⟩ := by
  cases waits with
  | millis fits => exact absurd fits (Nat.not_le_of_lt long)
  | refused => rfl

end Duration

/-! ## Waiting until an instant -/

/-- What a deadline is, as far as the clock goes: the time limit after now, if there is one. -/
structure Deadline.Ends (now : Duration) (limit : Option UInt64) (deadline : Deadline) : Prop where
  /-- Without a limit waiting goes on for ever. -/
  never : limit = none → deadline = .never
  /-- With a limit waiting ends so many seconds later. -/
  later : ∀ seconds, limit = some seconds → now.seconds + seconds.toNat < 2 ^ 63 →
    deadline = .instant ⟨now.seconds + seconds.toNat, now.nanos⟩

theorem Deadline.ends_ofLimit {now : Duration} (clock : now.nanos < 1000000000)
    (limit : Option UInt64) : Ends now limit (.ofLimit now (limit.map .ofSeconds)) where
  never unlimited := by rw [unlimited]; rfl
  later seconds limited representable := by
    have after : now.after? (.ofSeconds seconds) =
        some ⟨now.seconds + seconds.toNat, now.nanos⟩ := by
      have whole : now.seconds + (Duration.ofSeconds seconds).seconds +
          (now.nanos + (Duration.ofSeconds seconds).nanos) / 1000000000 =
            now.seconds + seconds.toNat := by
        change now.seconds + seconds.toNat + now.nanos / 1000000000 = now.seconds + seconds.toNat
        rw [Nat.div_eq_of_lt clock, Nat.add_zero]
      have fraction : (now.nanos + (Duration.ofSeconds seconds).nanos) % 1000000000 = now.nanos :=
        Nat.mod_eq_of_lt clock
      rw [Duration.after?, whole, fraction]
      exact if_pos representable
    rw [limited, Option.map_some, ofLimit, after]

/-- A time limit which is longer than the clock goes ends at no instant. -/
theorem Deadline.ofLimit_of_long {seconds : UInt64} (long : 2 ^ 63 ≤ seconds.toNat) (now : Duration) :
    ofLimit now (some (.ofSeconds seconds)) = .beyondClock := by
  have beyond : ¬ now.seconds + (Duration.ofSeconds seconds).seconds +
      (now.nanos + (Duration.ofSeconds seconds).nanos) / 1000000000 < Nat.pow 2 63 := by
    have reaches : Nat.pow 2 63 ≤ (Duration.ofSeconds seconds).seconds := long
    omega
  have after : now.after? (.ofSeconds seconds) = none := if_neg beyond
  rw [ofLimit, after]

/-! ## Configurations -/

namespace Config

open Yaml (Node Defaulted)

/-- Whatever is read has been in a file. -/
theorem load_eq_ok_iff {α : Type} {read : Node → Option α} {files : Files} {file : String}
    {config : α} :
    load read files file = .ok config ↔ ∃ document node, files file = .ok document ∧
      Yaml.document? document = some node ∧ read node = some config := by
  rw [load]
  cases files file with
  | error cause => exact ⟨nofun, nofun⟩
  | ok document =>
      dsimp only
      cases parsed : (Yaml.document? document).bind read with
      | none =>
          refine ⟨nofun, ?_⟩
          rintro ⟨_, node, ⟨⟩, there, got⟩
          rw [there, Option.bind_some, got] at parsed
          cases parsed
      | some value =>
          obtain ⟨node, there, got⟩ := Option.bind_eq_some_iff.mp parsed
          constructor
          · rintro ⟨⟩
            exact ⟨document, node, rfl, there, got⟩
          · rintro ⟨_, other, ⟨⟩, there', got'⟩
            cases there.symm.trans there'
            cases got.symm.trans got'
            rfl

/-- A time limit of a configuration is the one which is written in it, or its default. -/
structure Limited (names : List String) (node : Node) (name : String)
    (default limit : Option UInt64) : Prop where
  /-- The limit is written under its name. -/
  written : Defaulted names node name IsLimit default limit
  /-- A limit is never zero. -/
  positive : limit ≠ some 0

theorem limited_of_value? {names : List String} {node : Node} {record : Yaml.Record}
    (distinct : names.Nodup) (read : node.record? true names = some record) {name : String}
    (field : name ∈ names) {default limit : Option UInt64} (usual : default ≠ some 0)
    (value : record.value? name limit? default = some limit) :
    Limited names node name default limit := by
  have written := (Node.value?_iff distinct read field limit?_eq_some_iff default limit).mp value
  refine ⟨written, ?_⟩
  rcases written with ⟨_, -, shape⟩ | ⟨-, rfl⟩
  · exact shape.ne_zero
  · exact usual

end Config

namespace ServerConfig

/-- What the time limits of a tunnel server come to. -/
structure Timed (config : ServerConfig) (node : Yaml.Node) (now : Duration) : Prop where
  /-- The time limit of relays is what is written, and there is none by default. -/
  idle : Config.Limited fields node "idle_timeout" none config.idleTimeout
  /-- The time limit of waiting for a connection is what is written, three seconds by default. -/
  accept : Config.Limited fields node "accept_timeout" (some 3) config.acceptTimeout
  /-- Waiting for a connection. -/
  waits : Duration.Waits config.acceptTimeout config.acceptWait
  /-- Reading from a relayed stream. -/
  reads : Deadline.Ends now config.idleTimeout (config.readDeadline now)

theorem limited_of_ofNode? {node : Yaml.Node} {config : ServerConfig}
    (read : ofNode? node = some config) :
    Config.Limited fields node "idle_timeout" none config.idleTimeout ∧
      Config.Limited fields node "accept_timeout" (some 3) config.acceptTimeout := by
  simp only [ofNode?, Option.bind_eq_bind, Option.bind_eq_some_iff, Option.pure_def,
    Option.some.injEq] at read
  obtain ⟨record, isRecord, _, -, _, -, _, -, _, -, _, -, _, -, idle, idle_eq, accept, accept_eq,
    _, -, rfl⟩ := read
  have distinct : fields.Nodup := by decide
  exact ⟨Config.limited_of_value? distinct isRecord (by decide) nofun idle_eq,
    Config.limited_of_value? distinct isRecord (by decide) (by decide) accept_eq⟩

end ServerConfig

namespace ClientConfig

/-- What the time limits of a front-end come to. -/
structure Timed (config : ClientConfig) (node : Yaml.Node) (now : Duration) : Prop where
  /-- The time limit of negotiations is what is written, five minutes by default. -/
  timeout : Config.Limited fields node "tcp_timeout" (some 300) config.timeout
  /-- The time limit of waiting for a connection is what is written, three seconds by default. -/
  accept : Config.Limited fields node "accept_timeout" (some 3) config.acceptTimeout
  /-- Waiting for a connection. -/
  waits : Duration.Waits config.acceptTimeout config.acceptWait
  /-- Negotiating with a client. -/
  negotiates : Deadline.Ends now config.timeout (config.negotiationDeadline now)

theorem limited_of_ofNode? {node : Yaml.Node} {config : ClientConfig}
    (read : ofNode? node = some config) :
    Config.Limited fields node "tcp_timeout" (some 300) config.timeout ∧
      Config.Limited fields node "accept_timeout" (some 3) config.acceptTimeout := by
  simp only [ofNode?, Option.bind_eq_bind, Option.bind_eq_some_iff, Option.pure_def,
    Option.some.injEq] at read
  obtain ⟨record, isRecord, _, -, _, -, _, -, _, -, _, -, _, -, _, -, _, -, limit, limit_eq, accept,
    accept_eq, _, -, rfl⟩ := read
  have distinct : fields.Nodup := by decide
  exact ⟨Config.limited_of_value? distinct isRecord (by decide) (by decide) limit_eq,
    Config.limited_of_value? distinct isRecord (by decide) (by decide) accept_eq⟩

end ClientConfig

/-- **Time limits.**  Whatever is read from a file, the listeners wait for as many milliseconds as the
file says or refuse a limit which is too long for that, and what ends at an instant ends exactly so much
later as the file says, if the clock goes so far. -/
theorem timed_of_load (files : Config.Files) (file : String) {now : Duration}
    (clock : now.nanos < 1000000000) :
    (∀ config, ServerConfig.load files file = .ok config → ∃ document node,
        files file = .ok document ∧ Yaml.document? document = some node ∧ config.Timed node now) ∧
      ∀ config, ClientConfig.load files file = .ok config → ∃ document node,
        files file = .ok document ∧ Yaml.document? document = some node ∧ config.Timed node now := by
  constructor
  · intro config loaded
    obtain ⟨document, node, there, parsed, read⟩ := Config.load_eq_ok_iff.mp loaded
    obtain ⟨idle, accept⟩ := ServerConfig.limited_of_ofNode? read
    exact ⟨document, node, there, parsed, idle, accept, Duration.waits_pollLimit _,
      Deadline.ends_ofLimit clock _⟩
  · intro config loaded
    obtain ⟨document, node, there, parsed, read⟩ := Config.load_eq_ok_iff.mp loaded
    obtain ⟨timeout, accept⟩ := ClientConfig.limited_of_ofNode? read
    exact ⟨document, node, there, parsed, timeout, accept, Duration.waits_pollLimit _,
      Deadline.ends_ofLimit clock _⟩

/-- A document of two keys with plain values. -/
theorem Yaml.document?_of_two_entries {text first second one two : String}
    (scanned : Yaml.tokens? text = some
      #[.blockMappingStart, .key, .scalar true first, .value, .scalar true one,
        .key, .scalar true second, .value, .scalar true two, .blockEnd, .streamEnd]) :
    Yaml.document? text = some (.mapping
      [(.scalar true none first, .scalar true none one),
        (.scalar true none second, .scalar true none two)]) := by
  rw [Yaml.document?, scanned]
  rfl

/-- The longest time limit of waiting for a connection, and a negotiation which is over one second before
the end of the clock. -/
theorem timed_at_the_bounds :
    ∃ config, ClientConfig.load
        (fun _ => .ok "accept_timeout: 2147483\ntcp_timeout: 9223372036854775000") "front.yml" =
          .ok config ∧
      (∃ document node, config.Timed node ⟨806, 999999999⟩ ∧
        Yaml.document? document = some node) ∧
      config.acceptWait = .ok 2147483000 ∧
      config.negotiationDeadline ⟨806, 999999999⟩ = .instant ⟨9223372036854775806, 999999999⟩ := by
  let plain := Yaml.Node.scalar true none
  have parsed :
      Yaml.document? "accept_timeout: 2147483\ntcp_timeout: 9223372036854775000" =
        some (.mapping [(plain "accept_timeout", plain "2147483"),
          (plain "tcp_timeout", plain "9223372036854775000")]) :=
    Yaml.document?_of_two_entries (by decide +kernel)
  let config : ClientConfig := { acceptTimeout := some 2147483, timeout := some 9223372036854775000 }
  have loaded : ClientConfig.load
      (fun _ => .ok "accept_timeout: 2147483\ntcp_timeout: 9223372036854775000") "front.yml" =
        .ok config := Config.load_eq_ok_iff.mpr ⟨_, _, rfl, parsed, rfl⟩
  obtain ⟨document, node, -, read, timed⟩ :=
    (timed_of_load _ _ (by decide : (⟨806, 999999999⟩ : Duration).nanos < 1000000000)).2 config loaded
  exact ⟨config, loaded, ⟨document, node, timed, read⟩, timed.waits.eq_ok (by decide),
    timed.negotiates.later _ rfl (by decide)⟩

/-- Files from which configurations are read, but the listeners refuse the time limit, and at no instant
is there one which is so much later that a read or a negotiation could end at it. -/
theorem unrepresentable_limits :
    (∃ config, ServerConfig.load
        (fun _ => .ok "accept_timeout: 2147484\nidle_timeout: 18446744073709551615") "server.yml" =
          .ok config ∧
      config.acceptWait = .error ⟨.invalidInput, "timeout convert error: 2147484s"⟩ ∧
      ∀ now, config.readDeadline now = .beyondClock) ∧
    ∃ config, ClientConfig.load
        (fun _ => .ok "accept_timeout: 2147484\ntcp_timeout: 18446744073709551615") "front.yml" =
          .ok config ∧
      config.acceptWait = .error ⟨.invalidInput, "timeout convert error: 2147484s"⟩ ∧
      ∀ now, config.negotiationDeadline now = .beyondClock := by
  let plain := Yaml.Node.scalar true none
  have server :
      Yaml.document? "accept_timeout: 2147484\nidle_timeout: 18446744073709551615" =
        some (.mapping [(plain "accept_timeout", plain "2147484"),
          (plain "idle_timeout", plain "18446744073709551615")]) :=
    Yaml.document?_of_two_entries (by decide +kernel)
  have front :
      Yaml.document? "accept_timeout: 2147484\ntcp_timeout: 18446744073709551615" =
        some (.mapping [(plain "accept_timeout", plain "2147484"),
          (plain "tcp_timeout", plain "18446744073709551615")]) :=
    Yaml.document?_of_two_entries (by decide +kernel)
  refine ⟨⟨{ acceptTimeout := some 2147484, idleTimeout := some 18446744073709551615 },
    Config.load_eq_ok_iff.mpr ⟨_, _, rfl, server, rfl⟩, ?_, ?_⟩,
    ⟨{ acceptTimeout := some 2147484, timeout := some 18446744073709551615 },
      Config.load_eq_ok_iff.mpr ⟨_, _, rfl, front, rfl⟩, ?_, ?_⟩⟩
  · exact (Duration.waits_pollLimit _).eq_error (by decide)
  · exact Deadline.ofLimit_of_long (by decide)
  · exact (Duration.waits_pollLimit _).eq_error (by decide)
  · exact Deadline.ofLimit_of_long (by decide)

end TunnelProxy
