import RustdeskCli.Cli.Responses
import RustdeskCli.Connection.Address
set_option autoImplicit false

/-!
# Cli: the options of a connection (`src/main.rs`, `src/daemon.rs`)

`connect` starts the daemon, which makes the connection from what it is told on its
command line; the direct commands make it themselves.  Both build a `ConnectionConfig`
from the same options, each with a function of its own.

The daemon's command line is written by `spawn_daemon` and read by `daemon_arg_value`,
which takes the first argument that equals a flag for that flag, wherever it stands.
-/

namespace RustdeskCli.Cli

open RustdeskCli.Foundation
open RustdeskCli.Session

/-- The options of a connection. -/
structure ConnectOptions where
  peerId : Text
  password : Option Text
  server : Option Text
  idServer : Option Text
  relayServer : Option Text
  key : Option Text
  deriving DecidableEq, Repr

/-! ## The configuration -/

/-- `connection::ConnectionConfig`. -/
structure ConnectionConfig extends Connection.ConnectionConfig where
  password : Text
  warmupSecs : Nat
  deriving DecidableEq, Repr

/-- `s.split(':').next().unwrap_or(s)`. -/
def hostOf (server : Text) : Text := server.takeWhile (· ≠ ':')

/-- The relay server, which both functions choose in the same way. -/
def relayServerFor (o : ConnectOptions) : Text :=
  match o.relayServer with
  | some relay => relay
  | none =>
      match o.server with
      | some server => hostOf server ++ ":21117".toList
      | none => "localhost:21117".toList

/-- The configuration with an ID server. -/
def configWith (o : ConnectOptions) (idServer : Text) : ConnectionConfig where
  idServer := idServer
  relayServer := relayServerFor o
  serverKey := o.key.getD []
  peerId := o.peerId
  password := o.password.getD []
  warmupSecs := 2

/-- `daemon::build_connection_config`. -/
def buildConnectionConfig (o : ConnectOptions) : ConnectionConfig :=
  configWith o <|
    match o.idServer with
    | some idServer => idServer
    | none =>
        match o.server with
        | some server => hostOf server ++ ":21116".toList
        | none => "localhost:21116".toList

/-- `str::rsplit_once(':')`: what stands before and after the last colon. -/
def rsplitOnceColon (text : Text) : Option (Text × Text) :=
  match Text.rfind ':' text with
  | some i => some (text.take i, text.drop (i + 1))
  | none => none

/-- `str::parse::<u16>`. -/
def parseUInt16 (text : Text) : Option Nat :=
  let value :=
    match text with
    | '+' :: digits => parseDigits digits
    | digits => parseDigits digits
  value.filter (· < 2 ^ 16)

/-- The port of a relay server, if it names one. -/
def relayPort (relayServer : Text) : Option Nat :=
  (rsplitOnceColon relayServer).bind fun parts => parseUInt16 parts.2

/-- `infer_id_server_from_relay`. -/
def inferIdServerFromRelay (relayServer : Text) : Text :=
  let port := (((relayPort relayServer).map (· - 1)).filter (0 < ·)).getD 21116
  hostOf relayServer ++ ':' :: Nat.toDigits 10 port

/-- `main::build_direct_connection_config`. -/
def buildDirectConnectionConfig (o : ConnectOptions) : ConnectionConfig :=
  configWith o <|
    match o.idServer with
    | some idServer => idServer
    | none =>
        match o.server with
        | some server => hostOf server ++ ":21116".toList
        | none =>
            match o.relayServer with
            | some relay => inferIdServerFromRelay relay
            | none => "localhost:21116".toList

/-- What stands before the first colon determines the host, and the rest the port. -/
theorem host_port_inj {host host' port port' : Text} (h : ':' ∉ host) (h' : ':' ∉ host') :
    host ++ ':' :: port = host' ++ ':' :: port' ↔ host = host' ∧ port = port' := by
  have htake : ∀ {host : Text} (port : Text), ':' ∉ host →
      (host ++ ':' :: port).takeWhile (· ≠ ':') = host := by
    intro host port hmem
    rw [List.takeWhile_append_of_pos]
    · simp
    · intro c hc
      exact decide_eq_true fun heq => hmem (heq ▸ hc)
  constructor
  · intro heq
    have hhost : host = host' := by rw [← htake port h, heq, htake port' h']
    subst hhost
    exact ⟨rfl, (List.cons.inj (List.append_cancel_left heq)).2⟩
  · rintro ⟨rfl, rfl⟩
    rfl

theorem colon_not_mem_hostOf (server : Text) : ':' ∉ hostOf server := by
  intro hmem
  have hne := List.mem_takeWhile_imp (p := fun c => decide (c ≠ ':')) hmem
  exact of_decide_eq_true hne rfl

theorem toDigits_inj {m n : Nat} : Nat.toDigits 10 m = Nat.toDigits 10 n ↔ m = n := by
  refine ⟨fun h => ?_, fun h => by rw [h]⟩
  have hparse := congrArg parseDigits h
  rw [parseDigits_toDigits, parseDigits_toDigits] at hparse
  exact Option.some.inj hparse

/-- The ID server of the daemon, inferred from a relay server: the relay is on this host, and
at no other port than the relay's own. -/
theorem inferIdServerFromRelay_eq_iff (relay : Text) :
    inferIdServerFromRelay relay = "localhost:21116".toList ↔
      hostOf relay = "localhost".toList ∧
        ∀ port ∈ relayPort relay, port ≤ 1 ∨ port = 21117 := by
  have hdefault : "localhost:21116".toList =
      "localhost".toList ++ ':' :: Nat.toDigits 10 21116 := by rfl
  have hcolon : ':' ∉ "localhost".toList := by decide
  rw [inferIdServerFromRelay, hdefault, host_port_inj (colon_not_mem_hostOf relay) hcolon,
    toDigits_inj]
  apply and_congr_right
  intro _
  cases relayPort relay with
  | none => simp
  | some port =>
      simp only [Option.map_some, Option.filter_some, Option.mem_def, Option.some.injEq, forall_eq',
        decide_eq_true_eq]
      split
      · rw [Option.getD_some]
        omega
      · rw [Option.getD_none]
        omega

theorem configWith_inj {o : ConnectOptions} {idServer idServer' : Text} :
    configWith o idServer = configWith o idServer' ↔ idServer = idServer' := by
  refine ⟨fun h => ?_, fun h => by rw [h]⟩
  exact congrArg (fun config => config.idServer) h

/-- The daemon and the direct commands reach the same servers, unless the relay server is all
they are told: the direct commands infer the ID server from it, and the daemon takes its
default. -/
theorem connection_configs_agree_iff (o : ConnectOptions) :
    buildConnectionConfig o = buildDirectConnectionConfig o ↔
      (o.idServer = none → o.server = none → ∀ relay ∈ o.relayServer,
        hostOf relay = "localhost".toList ∧
          ∀ port ∈ relayPort relay, port ≤ 1 ∨ port = 21117) := by
  unfold buildConnectionConfig buildDirectConnectionConfig
  rw [configWith_inj]
  cases hid : o.idServer with
  | some idServer => simp
  | none =>
      cases hserver : o.server with
      | some server => simp
      | none =>
          cases hrelay : o.relayServer with
          | none => simp
          | some relay =>
              have hinfer := inferIdServerFromRelay_eq_iff relay
              constructor
              · intro heq _ _ relay' hmem
                obtain rfl := Option.some.inj hmem
                exact hinfer.mp heq.symm
              · intro hlocal
                exact (hinfer.mpr (hlocal rfl rfl relay rfl)).symm

/-- Only `--relay-server host:21117` is given. -/
theorem connection_configs_differ_relay_only :
    ∃ o : ConnectOptions, o.idServer = none ∧ o.server = none ∧
      o.relayServer = some "host:21117".toList ∧
      (buildConnectionConfig o).idServer = "localhost:21116".toList ∧
      (buildDirectConnectionConfig o).idServer = "host:21116".toList ∧
      buildConnectionConfig o ≠ buildDirectConnectionConfig o := by
  refine ⟨⟨"123".toList, none, none, none, some "host:21117".toList, none⟩, rfl, rfl, rfl, rfl,
    by decide, ?_⟩
  intro heq
  have hid : "localhost:21116".toList = "host:21116".toList :=
    congrArg (fun config => config.idServer) heq
  exact absurd hid (by decide)

/-! ## The server option

Both functions cut the value of `--server` at its first colon, which in an IPv6 literal is
not the end of the host. -/

/-- The options when `--server` is the only address given. -/
def serverOnly (peerId : Text) (password key : Option Text) (server : Text) : ConnectOptions :=
  ⟨peerId, password, some server, none, none, key⟩

/-- The two addresses of a configuration name the host, each at its default port.  The relay
address is the one that is finally used. -/
def KeepsHost (config : ConnectionConfig) (host : Connection.Host) : Prop :=
  config.idServer = host.text ++ ":21116".toList ∧
    Connection.normalizeRelayAddr config.relayServer = host.text ++ ":21117".toList

theorem hostOf_named (name : Connection.HostName) (port : Option Connection.Port) :
    hostOf (Connection.Address.hosted (.named name) port).text = name.text := by
  have hall : ∀ c ∈ name.text, decide (c ≠ ':') = true := by
    intro c hc
    exact decide_eq_true fun heq => name.colon_not_mem (heq ▸ hc)
  cases port with
  | none => exact List.takeWhile_eq_self_iff.mpr hall
  | some port =>
      have hcut : (name.text ++ ':' :: port.digits).takeWhile (· ≠ ':') = name.text := by
        rw [List.takeWhile_append_of_pos hall]
        simp
      exact hcut

theorem colon_mem_ipv6 (literal : Connection.Ipv6Literal) :
    ':' ∈ (Connection.Host.ipv6 literal).text := by
  have htwo := literal.two_colons
  have hmem : ':' ∈ literal.text := List.count_pos_iff.mp (by omega)
  exact List.mem_append_left _ (List.mem_cons_of_mem _ hmem)

/-- A name is kept by both functions. -/
theorem keepsHost_named (peerId : Text) (password key : Option Text) {server : Text}
    {name : Connection.HostName} (hname : hostOf server = name.text) :
    KeepsHost (buildConnectionConfig (serverOnly peerId password key server)) (.named name) ∧
      KeepsHost (buildDirectConnectionConfig (serverOnly peerId password key server))
        (.named name) := by
  have hid : hostOf server ++ ":21116".toList = name.text ++ ":21116".toList := by rw [hname]
  have hrelay : Connection.normalizeRelayAddr (hostOf server ++ ":21117".toList) =
      name.text ++ ":21117".toList := by
    rw [hname]
    exact Connection.normalizeRelayAddr_name_port name Connection.relayPort
  exact ⟨⟨hid, hrelay⟩, ⟨hid, hrelay⟩⟩

/-- The host of `--server`, a name, an IPv4 address or an IPv6 literal in brackets, with or
without a port, is the host of both addresses of both configurations exactly when it is not
an IPv6 literal. -/
theorem server_option_keeps_host_iff (peerId : Text) (password key : Option Text)
    (host : Connection.Host) (port : Option Connection.Port) :
    (KeepsHost (buildConnectionConfig
          (serverOnly peerId password key (Connection.Address.hosted host port).text)) host ∧
        KeepsHost (buildDirectConnectionConfig
          (serverOnly peerId password key (Connection.Address.hosted host port).text)) host) ↔
      ∀ literal, host ≠ .ipv6 literal := by
  cases host with
  | named name =>
      constructor
      · intro _ literal heq
        cases heq
      · intro _
        exact keepsHost_named peerId password key (hostOf_named name port)
  | ipv6 literal =>
      refine ⟨fun hkeeps => ?_, fun hnot => absurd rfl (hnot literal)⟩
      have hid : hostOf (Connection.Address.hosted (.ipv6 literal) port).text ++
          ":21116".toList = (Connection.Host.ipv6 literal).text ++ ":21116".toList := hkeeps.1.1
      have hcolon := colon_mem_ipv6 literal
      rw [← List.append_cancel_right hid] at hcolon
      exact absurd hcolon (colon_not_mem_hostOf _)

/-- `--server [::1]`: both servers are looked for at the host `[`. -/
theorem server_option_cuts_ipv6 :
    ∃ (o : ConnectOptions) (host : Connection.Host),
      o = serverOnly "123".toList none none "[::1]".toList ∧ host.text = "[::1]".toList ∧
      (buildConnectionConfig o).idServer = "[:21116".toList ∧
      Connection.normalizeRelayAddr (buildConnectionConfig o).relayServer =
        "[:21117:21117".toList ∧
      ¬KeepsHost (buildConnectionConfig o) host ∧
      ¬KeepsHost (buildDirectConnectionConfig o) host := by
  refine ⟨_, .ipv6 ⟨"::1".toList, by decide, by decide, by decide⟩, rfl, rfl, by decide,
    by decide, ?_, ?_⟩
  · rintro ⟨hid, -⟩
    exact absurd hid (by decide)
  · rintro ⟨hid, -⟩
    exact absurd hid (by decide)

/-! ## The command line of the daemon -/

/-- What `spawn_daemon` is called with. -/
structure SpawnOptions extends ConnectOptions where
  timeout : Option UInt64
  deriving DecidableEq, Repr

/-- The flags of the daemon that are followed by a value. -/
inductive DaemonFlag where
  | peerId
  | password
  | server
  | idServer
  | relayServer
  | key
  | connectTimeout
  deriving DecidableEq, Repr

/-- A flag as it is written. -/
def DaemonFlag.text : DaemonFlag → Text
  | .peerId => "--peer-id".toList
  | .password => "--password".toList
  | .server => "--server".toList
  | .idServer => "--id-server".toList
  | .relayServer => "--relay-server".toList
  | .key => "--key".toList
  | .connectTimeout => "--connect-timeout".toList

/-- `cmd.arg(flag).arg(value)`, if there is a value. -/
def optionArgs (flag : DaemonFlag) : Option Text → List Text
  | some value => [flag.text, value]
  | none => []

/-- `u64::to_string`. -/
def u64Text (n : UInt64) : Text := Nat.toDigits 10 n.toNat

/-- The arguments of `spawn_daemon`, after the name of the executable. -/
def spawnArgs (o : SpawnOptions) : List Text :=
  ["--daemon".toList, DaemonFlag.text .peerId, o.peerId] ++
    optionArgs .password o.password ++ optionArgs .server o.server ++
    optionArgs .idServer o.idServer ++ optionArgs .relayServer o.relayServer ++
    optionArgs .key o.key ++ optionArgs .connectTimeout (o.timeout.map u64Text)

/-- `daemon_arg_value`: the second of the first two neighbours of which the first is the
flag. -/
def daemonArgValue : List Text → Text → Option Text
  | arg :: next :: args, flag =>
      if arg = flag then some next else daemonArgValue (next :: args) flag
  | _, _ => none

/-- What `run_daemon_mode` calls `run_daemon` with. -/
structure RunOptions extends SpawnOptions where
  idleTimeout : Option UInt64
  deriving DecidableEq, Repr

/-- `run_daemon_mode`; `none` when it panics for want of a peer id. -/
def runDaemonMode (args : List Text) : Option RunOptions :=
  match daemonArgValue args (DaemonFlag.text .peerId) with
  | none => none
  | some peerId =>
      some
        { peerId := peerId
          password := daemonArgValue args (DaemonFlag.text .password)
          server := daemonArgValue args (DaemonFlag.text .server)
          idServer := daemonArgValue args (DaemonFlag.text .idServer)
          relayServer := daemonArgValue args (DaemonFlag.text .relayServer)
          key := daemonArgValue args (DaemonFlag.text .key)
          timeout := (daemonArgValue args (DaemonFlag.text .connectTimeout)).bind parseUInt64
          idleTimeout := (daemonArgValue args "--timeout".toList).bind parseUInt64 }

/-! ### Values that are taken for flags -/

/-- The value of a flag, as it is written. -/
def SpawnOptions.given (o : SpawnOptions) : DaemonFlag → Option Text
  | .peerId => some o.peerId
  | .password => o.password
  | .server => o.server
  | .idServer => o.idServer
  | .relayServer => o.relayServer
  | .key => o.key
  | .connectTimeout => o.timeout.map u64Text

/-- The flags that are given, each with its value, in the order of `spawn_daemon`. -/
def SpawnOptions.pairs (o : SpawnOptions) : List (DaemonFlag × Text) :=
  [.peerId, .password, .server, .idServer, .relayServer, .key, .connectTimeout].filterMap
    fun flag => (o.given flag).map fun value => (flag, value)

/-- The arguments a list of pairs stands for. -/
def tokens (pairs : List (DaemonFlag × Text)) : List Text :=
  pairs.flatMap fun pair => [pair.1.text, pair.2]

/-- A value before the flag's own place is the flag itself: the flag that stands behind the
first of these values. -/
def misled (flag : Text) : List (DaemonFlag × Text) → Option DaemonFlag
  | (own, value) :: (next, value') :: pairs =>
      if own.text = flag then none
      else if value = flag then some next
      else misled flag ((next, value') :: pairs)
  | _ => none

/-- The argument that is read for a flag in the place of its own value, because the name of
the executable or a value is that flag. -/
def misread (exe : Text) (o : SpawnOptions) (flag : Text) : Option Text :=
  if exe = flag then some "--daemon".toList else (misled flag o.pairs).map DaemonFlag.text

/-- What is misread for a flag is its own value all the same.  A timeout that is not given
cannot be misread, since no flag is a number. -/
def Legible (exe : Text) (o : SpawnOptions) : Prop :=
  ∀ flag, (flag = .connectTimeout → o.timeout.isSome) →
    ∀ other ∈ misread exe o flag.text, o.given flag = some other

theorem DaemonFlag.text_inj {flag flag' : DaemonFlag} : flag.text = flag'.text ↔ flag = flag' := by
  refine ⟨fun h => ?_, fun h => by rw [h]⟩
  cases flag <;> cases flag' <;> first | rfl | exact absurd h (by decide)

theorem DaemonFlag.text_ne_daemon (flag : DaemonFlag) : "--daemon".toList ≠ flag.text := by
  cases flag <;> decide

theorem spawnArgs_eq (o : SpawnOptions) : spawnArgs o = "--daemon".toList :: tokens o.pairs := by
  obtain ⟨⟨peerId, password, server, idServer, relayServer, key⟩, timeout⟩ := o
  cases password <;> cases server <;> cases idServer <;> cases relayServer <;> cases key <;>
    cases timeout <;> rfl

/-- In a list of flags with their values, a flag is found where it stands, unless a value
before it misleads. -/
theorem daemonArgValue_tokens (flag : Text) (pairs : List (DaemonFlag × Text)) :
    daemonArgValue (tokens pairs) flag =
      ((misled flag pairs).map DaemonFlag.text).or
        ((pairs.find? fun pair => pair.1.text = flag).map Prod.snd) := by
  induction pairs with
  | nil => rfl
  | cons pair pairs ih =>
      obtain ⟨own, value⟩ := pair
      cases pairs with
      | nil =>
          by_cases hown : own.text = flag
          · simp [tokens, daemonArgValue, misled, hown]
          · simp [tokens, daemonArgValue, misled, hown]
      | cons next pairs =>
          have htokens : tokens ((own, value) :: next :: pairs) =
              own.text :: value :: tokens (next :: pairs) := rfl
          have hnext : tokens (next :: pairs) = next.1.text :: next.2 :: tokens pairs := rfl
          rw [htokens, daemonArgValue, misled, List.find?_cons]
          by_cases hown : own.text = flag
          · simp [hown]
          · rw [if_neg hown, if_neg hown, decide_eq_false hown, hnext, daemonArgValue, ← hnext]
            by_cases hvalue : value = flag
            · simp [hvalue]
            · rw [if_neg hvalue, if_neg hvalue, ih]

/-- Each flag stands for the value it was given. -/
theorem find?_pairs (o : SpawnOptions) (flag : DaemonFlag) :
    (o.pairs.find? fun pair => pair.1.text = flag.text).map Prod.snd = o.given flag := by
  have hlist : ∀ flags : List DaemonFlag,
      ((flags.filterMap fun f => (o.given f).map fun value => (f, value)).find?
        fun pair => pair.1.text = flag.text).map Prod.snd =
      if flag ∈ flags then o.given flag else none := by
    intro flags
    induction flags with
    | nil => rfl
    | cons f flags ih =>
        rw [List.filterMap_cons]
        cases hgiven : o.given f with
        | none =>
            rw [Option.map_none, ih]
            by_cases hf : flag = f
            · subst hf
              simp [hgiven]
            · simp [hf]
        | some value =>
            simp only [Option.map_some, List.find?_cons, DaemonFlag.text_inj]
            by_cases hf : f = flag
            · subst hf
              simp [hgiven]
            · rw [decide_eq_false hf]
              simp only [DaemonFlag.text_inj] at ih
              rw [ih]
              simp [Ne.symm hf]
  rw [SpawnOptions.pairs, hlist]
  cases flag <;> rfl

/-- What the daemon reads for a flag, given or not. -/
theorem daemonArgValue_exe {flag : Text} (h : "--daemon".toList ≠ flag) (exe : Text)
    (o : SpawnOptions) :
    daemonArgValue (exe :: spawnArgs o) flag =
      (misread exe o flag).or ((o.pairs.find? fun pair => pair.1.text = flag).map Prod.snd) := by
  have hskip : daemonArgValue ("--daemon".toList :: tokens o.pairs) flag =
      daemonArgValue (tokens o.pairs) flag := by
    have hpairs : ∃ arg args, tokens o.pairs = arg :: args := ⟨_, _, rfl⟩
    obtain ⟨arg, args, hpairs⟩ := hpairs
    rw [hpairs, daemonArgValue, if_neg h]
  rw [spawnArgs_eq, daemonArgValue, misread]
  by_cases hexe : exe = flag
  · rw [if_pos hexe, if_pos hexe]
    rfl
  · rw [if_neg hexe, if_neg hexe, hskip, daemonArgValue_tokens]

theorem daemonArgValue_spawnArgs (exe : Text) (o : SpawnOptions) (flag : DaemonFlag) :
    daemonArgValue (exe :: spawnArgs o) flag.text =
      (misread exe o flag.text).or (o.given flag) := by
  rw [daemonArgValue_exe flag.text_ne_daemon, find?_pairs]

/-- No number begins with a minus sign. -/
theorem parseUInt64_flag (text : Text) : parseUInt64 ('-' :: text) = none := by
  have hdigits : parseDigits ('-' :: text) = none := by
    unfold parseDigits
    rw [if_neg]
    rintro ⟨-, hall⟩
    exact absurd (List.all_eq_true.mp hall '-' List.mem_cons_self) (by decide)
  unfold parseUInt64
  split
  · rename_i digits hcons
    exact absurd (List.cons.inj hcons).1 (by decide)
  · rw [hdigits, Option.bind_none]

theorem parseUInt64_u64Text (n : UInt64) : parseUInt64 (u64Text n) = some n := by
  have hparse := parseDigits_toDigits n.toNat
  obtain ⟨c, rest, heq, hdigit⟩ := toDigits_eq_cons n.toNat
  unfold parseUInt64 u64Text
  rw [heq] at hparse ⊢
  split
  · rename_i digits hcons
    rw [(List.cons.inj hcons).1] at hdigit
    exact absurd hdigit (by decide)
  · rw [hparse, Option.bind_some, if_pos n.toNat_lt, UInt64.ofNat_toNat]

/-- What is misread is a flag, and no number. -/
theorem parseUInt64_misread {exe : Text} {o : SpawnOptions} {flag other : Text}
    (h : misread exe o flag = some other) : parseUInt64 other = none := by
  unfold misread at h
  split at h
  · obtain rfl := Option.some.inj h
    exact parseUInt64_flag _
  · obtain ⟨f, -, rfl⟩ := Option.map_eq_some_iff.mp h
    cases f <;> exact parseUInt64_flag _

/-- A flag's own value is read exactly when what is misread for it is that value. -/
theorem or_eq_right_iff {α : Type} (misread given : Option α) :
    misread.or given = given ↔ ∀ other ∈ misread, given = some other := by
  cases misread with
  | none => simp
  | some other => simp [eq_comm]

theorem timeout_read_iff (exe : Text) (o : SpawnOptions) :
    (daemonArgValue (exe :: spawnArgs o) (DaemonFlag.text .connectTimeout)).bind parseUInt64 =
        o.timeout ↔
      (o.timeout.isSome → ∀ other ∈ misread exe o (DaemonFlag.text .connectTimeout),
        o.given .connectTimeout = some other) := by
  have hgiven : o.given .connectTimeout = o.timeout.map u64Text := rfl
  rw [daemonArgValue_spawnArgs, hgiven]
  cases hmisread : misread exe o (DaemonFlag.text .connectTimeout) with
  | none =>
      cases o.timeout with
      | none => simp
      | some n => simp [parseUInt64_u64Text]
  | some other =>
      have hnone := parseUInt64_misread hmisread
      cases o.timeout with
      | none => simp [hnone]
      | some n =>
          have hne : u64Text n ≠ other := by
            intro heq
            rw [← heq, parseUInt64_u64Text] at hnone
            cases hnone
          simp [hnone, hne]

/-- The idle timeout is never given, and never read. -/
theorem idleTimeout_read (exe : Text) (o : SpawnOptions) :
    (daemonArgValue (exe :: spawnArgs o) "--timeout".toList).bind parseUInt64 = none := by
  have hflags : ∀ flag : DaemonFlag, flag.text ≠ "--timeout".toList := by
    intro flag
    cases flag <;> decide
  have hfind : (o.pairs.find? fun pair => pair.1.text = "--timeout".toList) = none := by
    rw [List.find?_eq_none]
    intro pair _ hpair
    exact hflags pair.1 (of_decide_eq_true hpair)
  have hdaemon : "--daemon".toList ≠ "--timeout".toList := by decide
  rw [daemonArgValue_exe hdaemon, hfind, Option.map_none, Option.or_none]
  cases hmisread : misread exe o "--timeout".toList with
  | none => rfl
  | some other => exact parseUInt64_misread hmisread

/-- The daemon reads what `spawn_daemon` was called with exactly when no value is taken for a
flag with another value. -/
theorem runDaemonMode_spawnArgs_iff (exe : Text) (o : SpawnOptions) :
    runDaemonMode (exe :: spawnArgs o) = some ⟨o, none⟩ ↔ Legible exe o := by
  have hvalue : ∀ flag, daemonArgValue (exe :: spawnArgs o) flag.text = o.given flag ↔
      ∀ other ∈ misread exe o flag.text, o.given flag = some other := by
    intro flag
    rw [daemonArgValue_spawnArgs, or_eq_right_iff]
  have htimeout := timeout_read_iff exe o
  have hidle := idleTimeout_read exe o
  have hpeer : ∃ peerId,
      daemonArgValue (exe :: spawnArgs o) (DaemonFlag.text .peerId) = some peerId := by
    rw [daemonArgValue_spawnArgs]
    cases misread exe o (DaemonFlag.text .peerId) with
    | none => exact ⟨o.peerId, rfl⟩
    | some other => exact ⟨other, rfl⟩
  obtain ⟨peerId, hpeer⟩ := hpeer
  unfold runDaemonMode
  rw [hpeer]
  constructor
  · intro hread flag hgiven
    have hfields := Option.some.inj hread
    cases flag with
    | peerId =>
        have heq : peerId = o.peerId := congrArg (fun run => run.peerId) hfields
        exact (hvalue .peerId).mp (hpeer.trans (congrArg some heq))
    | password => exact (hvalue .password).mp (congrArg (fun run => run.password) hfields)
    | server => exact (hvalue .server).mp (congrArg (fun run => run.server) hfields)
    | idServer => exact (hvalue .idServer).mp (congrArg (fun run => run.idServer) hfields)
    | relayServer => exact (hvalue .relayServer).mp (congrArg (fun run => run.relayServer) hfields)
    | key => exact (hvalue .key).mp (congrArg (fun run => run.key) hfields)
    | connectTimeout => exact htimeout.mp (congrArg (fun run => run.timeout) hfields) (hgiven rfl)
  · intro hlegible
    have hown : ∀ flag, flag ≠ .connectTimeout →
        daemonArgValue (exe :: spawnArgs o) flag.text = o.given flag :=
      fun flag hne => (hvalue flag).mpr (hlegible flag fun heq => absurd heq hne)
    have hpeerId : some peerId = some o.peerId := hpeer.symm.trans (hown .peerId (by decide))
    rw [Option.some.inj hpeerId, hown .password (by decide), hown .server (by decide),
      hown .idServer (by decide), hown .relayServer (by decide), hown .key (by decide),
      htimeout.mpr fun hgiven => hlegible .connectTimeout fun _ => hgiven, hidle]
    rfl

/-- The password `--key`, and no key. -/
theorem runDaemonMode_password_key :
    ∃ o : SpawnOptions, o.password = some "--key".toList ∧ o.key = none ∧
      (runDaemonMode ("rustdesk-cli".toList :: spawnArgs o)).map (fun run => run.key) =
        some (some "--server".toList) ∧
      runDaemonMode ("rustdesk-cli".toList :: spawnArgs o) ≠ some ⟨o, none⟩ := by
  let o : SpawnOptions :=
    ⟨⟨"123".toList, some "--key".toList, some "host".toList, none, none, none⟩, none⟩
  have hkey : (runDaemonMode ("rustdesk-cli".toList :: spawnArgs o)).map (fun run => run.key) =
      some (some "--server".toList) := by decide
  refine ⟨o, rfl, rfl, hkey, ?_⟩
  intro heq
  rw [heq] at hkey
  cases hkey

end RustdeskCli.Cli
