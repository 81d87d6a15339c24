import RustdeskCli.Connection.Relay
set_option autoImplicit false

/-!
# Connection: addresses as they are written (`src/connection.rs`)

A relay is named by a host and perhaps a port.  The host is a name, an IPv4 address or
an IPv6 literal; a literal stands in brackets, or bare when there is no port.
`normalize_relay_addr` sees a text only: a first bracket, the two characters `]:`, and
the number of colons decide what it takes the text for.
-/

namespace RustdeskCli.Connection

open RustdeskCli.Foundation

/-! ## The written forms -/

/-- A name or an IPv4 address. -/
structure HostName where
  text : Text
  ne_nil : text ≠ []
  colon_not_mem : ':' ∉ text
  open_not_mem : '[' ∉ text
  close_not_mem : ']' ∉ text

/-- An IPv6 literal, without brackets. -/
structure Ipv6Literal where
  text : Text
  two_colons : 2 ≤ text.count ':'
  open_not_mem : '[' ∉ text
  close_not_mem : ']' ∉ text

/-- A port, in decimal digits. -/
structure Port where
  digits : Text
  ne_nil : digits ≠ []
  isDigit : ∀ c ∈ digits, c.isDigit = true

/-- What an address names. -/
inductive Host where
  | named (name : HostName)
  | ipv6 (literal : Ipv6Literal)

/-- The host as it stands before a port: a literal is put in brackets. -/
def Host.text : Host → Text
  | .named name => name.text
  | .ipv6 literal => '[' :: literal.text ++ "]".toList

/-- A well-formed address: a host as it stands before a port, with or without one, or an IPv6
literal by itself. -/
inductive Address where
  | hosted (host : Host) (port : Option Port)
  | bare (literal : Ipv6Literal)

namespace Address

/-- The address as it is written. -/
def text : Address → Text
  | .hosted host none => host.text
  | .hosted host (some port) => host.text ++ ':' :: port.digits
  | .bare literal => literal.text

/-- The host of an address. -/
def host : Address → Host
  | .hosted host _ => host
  | .bare literal => .ipv6 literal

/-- The port of an address, if one is given. -/
def port : Address → Option Port
  | .hosted _ port => port
  | .bare _ => none

end Address

/-- `RELAY_PORT`. -/
def relayPort : Port := ⟨"21117".toList, by decide, List.all_eq_true.mp (by decide)⟩

/-! ## What the three tests see -/

theorem Port.colon_not_mem (port : Port) : ':' ∉ port.digits := by
  intro hmem
  exact absurd (port.isDigit ':' hmem) (by decide)

theorem head?_ne_of_not_mem {text : Text} {c : Char} (h : c ∉ text) : text.head? ≠ some c := by
  intro hhead
  exact h (List.mem_of_mem_head? hhead)

theorem ne_nil_of_count {text : Text} {c : Char} (h : 0 < text.count c) : text ≠ [] := by
  rintro rfl
  exact absurd h (by simp)

/-- A literal in brackets with nothing behind it does not contain `]:`. -/
theorem Ipv6Literal.not_contains (literal : Ipv6Literal) :
    Text.contains ('[' :: literal.text ++ "]".toList) "]:".toList = false := by
  rw [← Bool.not_eq_true, Text.contains_iff_infix]
  intro hinfix
  have hcases : "]:".toList <:+ ('[' :: literal.text) ++ [']'] ∨
      "]:".toList <:+: '[' :: literal.text := List.infix_concat_iff.mp hinfix
  rcases hcases with hsuffix | hin
  · -- the last character is the bracket, not the colon
    obtain ⟨front, heq⟩ := hsuffix
    have hlast := congrArg List.getLast? heq
    rw [List.getLast?_concat, List.getLast?_append_of_ne_nil _ (by decide)] at hlast
    exact absurd hlast (by decide)
  · have hmem : ']' ∈ '[' :: literal.text := hin.subset (by decide)
    rcases List.mem_cons.mp hmem with hopen | hmem
    · exact absurd hopen (by decide)
    · exact literal.close_not_mem hmem

/-- With a port behind it, it does. -/
theorem Ipv6Literal.contains_port (literal : Ipv6Literal) (digits : Text) :
    Text.contains (('[' :: literal.text ++ "]".toList) ++ ':' :: digits) "]:".toList = true := by
  rw [Text.contains_iff_infix]
  exact ⟨'[' :: literal.text, digits, by simp⟩

/-! ## Normalisation -/

theorem normalizeRelayAddr_name (name : HostName) :
    normalizeRelayAddr name.text = name.text ++ ':' :: relayPort.digits := by
  unfold normalizeRelayAddr
  rw [if_neg name.ne_nil, if_neg (head?_ne_of_not_mem name.open_not_mem),
    List.count_eq_zero.mpr name.colon_not_mem]
  rfl

theorem normalizeRelayAddr_name_port (name : HostName) (port : Port) :
    normalizeRelayAddr (name.text ++ ':' :: port.digits) = name.text ++ ':' :: port.digits := by
  have hne : name.text ++ ':' :: port.digits ≠ [] := List.append_ne_nil_of_left_ne_nil name.ne_nil _
  have hhead : (name.text ++ ':' :: port.digits).head? ≠ some '[' := by
    rw [List.head?_append_of_ne_nil _ name.ne_nil]
    exact head?_ne_of_not_mem name.open_not_mem
  have hcount : (name.text ++ ':' :: port.digits).count ':' = 1 := by
    rw [List.count_append, List.count_eq_zero.mpr name.colon_not_mem, List.count_cons_self,
      List.count_eq_zero.mpr port.colon_not_mem]
  unfold normalizeRelayAddr
  rw [if_neg hne, if_neg hhead]
  simp only [hcount]

/-- Behind a bracket only `]:` matters. -/
theorem normalizeRelayAddr_bracket (rest : Text) :
    normalizeRelayAddr ('[' :: rest) =
      if Text.contains ('[' :: rest) "]:".toList then '[' :: rest
      else '[' :: rest ++ relayPortSuffix := rfl

theorem normalizeRelayAddr_ipv6 (literal : Ipv6Literal) :
    normalizeRelayAddr ('[' :: literal.text ++ "]".toList) =
      ('[' :: literal.text ++ "]".toList) ++ ':' :: relayPort.digits := by
  have hbare := literal.not_contains
  rw [List.cons_append] at hbare ⊢
  rw [normalizeRelayAddr_bracket, hbare]
  rfl

theorem normalizeRelayAddr_ipv6_port (literal : Ipv6Literal) (port : Port) :
    normalizeRelayAddr (('[' :: literal.text ++ "]".toList) ++ ':' :: port.digits) =
      ('[' :: literal.text ++ "]".toList) ++ ':' :: port.digits := by
  have hport := literal.contains_port port.digits
  rw [List.cons_append, List.cons_append] at hport ⊢
  rw [normalizeRelayAddr_bracket, if_pos hport]

theorem normalizeRelayAddr_bare (literal : Ipv6Literal) :
    normalizeRelayAddr literal.text = (Host.ipv6 literal).text ++ ':' :: relayPort.digits := by
  have htwo := literal.two_colons
  unfold normalizeRelayAddr
  rw [if_neg (ne_nil_of_count (c := ':') (by omega)),
    if_neg (head?_ne_of_not_mem literal.open_not_mem)]
  split
  · omega
  · omega
  · rfl

/-- A host with a port is left as it is. -/
theorem normalizeRelayAddr_hosted (host : Host) (port : Port) :
    normalizeRelayAddr (Address.hosted host (some port)).text =
      (Address.hosted host (some port)).text := by
  cases host with
  | named name => exact normalizeRelayAddr_name_port name port
  | ipv6 literal => exact normalizeRelayAddr_ipv6_port literal port

theorem normalizeRelayAddr_eq (a : Address) :
    normalizeRelayAddr a.text = (Address.hosted a.host (some (a.port.getD relayPort))).text := by
  cases a with
  | bare literal => exact normalizeRelayAddr_bare literal
  | hosted host port =>
      cases port with
      | some port => exact normalizeRelayAddr_hosted host port
      | none =>
          cases host with
          | named name => exact normalizeRelayAddr_name name
          | ipv6 literal => exact normalizeRelayAddr_ipv6 literal

/-- `normalize_relay_addr` of every well-formed address is its host, in brackets if it is an
IPv6 literal, with the given port or else the relay's; a second time changes nothing. -/
theorem normalize_relay_addr_exact (a : Address) :
    normalizeRelayAddr a.text = a.host.text ++ ':' :: (a.port.getD relayPort).digits ∧
      normalizeRelayAddr (normalizeRelayAddr a.text) = normalizeRelayAddr a.text := by
  refine ⟨normalizeRelayAddr_eq a, ?_⟩
  rw [normalizeRelayAddr_eq a]
  exact normalizeRelayAddr_hosted a.host (a.port.getD relayPort)

end RustdeskCli.Connection
