import SyncApp.Messaging.Service

/-!
# The address that a connection is charged to

Behind a proxy the client's address comes from the header `X-Forwarded-For`, which the client may
send as well.  What it sends lies left of what the proxies append.

Main results:

- `charged_to_appended`: the scan from the right finds the address that the proxies appended.
-/

namespace SyncApp.Gateway

open List
open Messaging.Service (isSpace trimSpace)

/-- The host of `net.SplitHostPort`, unless that fails. -/
def splitHost (hostport : List Char) : Option (List Char) :=
  match hostport.reverse.dropWhile (· ≠ ':') with
  | [] => none
  | _ :: before =>
    -- What stands before the last colon.
    let host := before.reverse
    if hostport.head? = some '[' then
      let inner := host.tail.dropLast
      if host.getLast? = some ']' ∧ ']' ∉ inner ∧ '[' ∉ hostport.tail ∧
        ']' ∉ hostport.drop host.length then some inner else none
    else if ':' ∉ host ∧ '[' ∉ hostport ∧ ']' ∉ hostport then some host else none

def hostOf (remote : String) : String :=
  ((splitHost remote.toList).map String.ofList).getD remote

/-- The nonempty parts of one line of the header. -/
def partsOf (value : List Char) : List String :=
  ((value.splitOn ',').map fun part => trimSpace (String.ofList part)).filter (· ≠ "")

def chainOf (lines : List String) : List String := lines.flatMap fun value => partsOf value.toList

section Resolve

-- `net.ParseIP`, and of a network what it contains.
variable {IP : Type} (parseIP : String → Option IP) (trusted : List (IP → Bool))

def isTrustedProxy (addr : String) : Bool :=
  match parseIP addr with
  | none => false
  | some ip => trusted.any (· ip)

/-- The loop of `clientIP`, over the chain from the right. -/
def scan (peer : String) : List String → String
  | [] => peer
  | entry :: rest =>
    if (parseIP (hostOf entry)).isNone then peer
    else if isTrustedProxy parseIP trusted (hostOf entry) then scan peer rest
    else hostOf entry

def clientIP (remoteAddr : String) (lines : List String) : String :=
  let peer := hostOf remoteAddr
  if isTrustedProxy parseIP trusted peer then scan parseIP trusted peer (chainOf lines).reverse
  else peer

end Resolve

/-- What a proxy appends for an address, with a port or without. -/
structure Names (entry addr : String) : Prop where
  noComma : ',' ∉ entry.toList
  trimmed : trimSpace entry = entry
  nonempty : entry ≠ ""
  host : hostOf entry = addr

/-- A proxy appends to the last line, or adds a line. -/
def forward (lines : List String) (hop : Bool × String) : List String :=
  match lines.getLast? with
  | some line => if hop.1 then lines.dropLast ++ [line ++ ", " ++ hop.2] else lines ++ [hop.2]
  | none => [hop.2]

section Chain

variable {entry addr : String} (h : Names entry addr)
include h

lemma partsOf_entry : partsOf entry.toList = [entry] := by
  simp [partsOf, splitOn_eq_singleton h.noComma, h.trimmed, h.nonempty]

lemma partsOf_joined (line : List Char) :
    partsOf (line ++ ',' :: ' ' :: entry.toList) = partsOf line ++ [entry] := by
  have hcomma : ',' ∉ ' ' :: entry.toList := by simp [h.noComma]
  have htrim : trimSpace (" " ++ entry) = trimSpace entry := by
    simp [trimSpace, isSpace]
  simp [partsOf, splitOn_append_cons_self, splitOn_eq_singleton hcomma, htrim, h.trimmed,
    h.nonempty]

/-- Either way of appending adds one entry on the right, whatever the lines were. -/
lemma chainOf_forward (lines : List String) (sameLine : Bool) :
    chainOf (forward lines (sameLine, entry)) = chainOf lines ++ [entry] := by
  rcases eq_nil_or_concat lines with rfl | ⟨lines, line, rfl⟩
  · simp [forward, chainOf, partsOf_entry h]
  · cases sameLine with
    | false => simp [forward, chainOf, partsOf_entry h]
    | true => simp [forward, chainOf, partsOf_joined h]

end Chain

section Resolve

variable {IP : Type} {parseIP : String → Option IP} {trusted : List (IP → Bool)}

lemma parses_of_trusted {addr : String} (h : isTrustedProxy parseIP trusted addr = true) :
    parseIP addr ≠ none := by
  unfold isTrustedProxy at h
  split at h
  · cases h
  · next hip => simp [hip]

lemma scan_forwarded {hops : List (Bool × String)}
    (hhops : ∀ hop ∈ hops, ∃ addr, Names hop.2 addr ∧ isTrustedProxy parseIP trusted addr = true)
    (peer : String) (lines : List String) :
    scan parseIP trusted peer (chainOf (hops.foldl forward lines)).reverse =
      scan parseIP trusted peer (chainOf lines).reverse := by
  induction hops generalizing lines with
  | nil => rfl
  | cons hop hops ih =>
    rcases hhops hop mem_cons_self with ⟨addr, hnames, htrust⟩
    rw [foldl_cons, ih fun hop' hmem => hhops hop' (mem_cons_of_mem _ hmem)]
    rw [chainOf_forward hnames lines hop.1]
    simp [scan, hnames.host, htrust, parses_of_trusted htrust]

/-- Whatever lines the client sends, it is charged to the address that the nearest proxy appends for
it. -/
theorem charged_to_appended {entry addr : String} (hnames : Names entry addr)
    (hip : parseIP addr ≠ none) (hclient : isTrustedProxy parseIP trusted addr = false)
    (hops : List (Bool × String))
    (hhops : ∀ hop ∈ hops, ∃ addr, Names hop.2 addr ∧ isTrustedProxy parseIP trusted addr = true)
    (remoteAddr : String) (client : List String) (sameLine : Bool) :
    clientIP parseIP trusted remoteAddr
        (hops.foldl forward (forward client (sameLine, entry))) =
      if isTrustedProxy parseIP trusted (hostOf remoteAddr) then addr else hostOf remoteAddr := by
  unfold clientIP
  dsimp only
  split
  · rw [scan_forwarded hhops, chainOf_forward hnames]
    simp [scan, hnames.host, hclient, hip]
  · rfl

/-- The client sends a proxy's address, the nearest proxy joins the line, and the next one adds a
line of its own. -/
theorem charged_to_appended_joined :
    clientIP (fun s => if s ∈ ["10.0.0.2", "203.0.113.9"] then some s else none)
        [(· = "10.0.0.2")] "10.0.0.2:443"
        ["8.8.8.8", "10.0.0.2, [::1, 203.0.113.9:80", "10.0.0.2"] = "203.0.113.9" := by
  refine charged_to_appended
    (⟨by decide, by decide, by decide, by decide⟩ : Names "203.0.113.9:80" "203.0.113.9")
    (by decide) (by decide) [(false, "10.0.0.2")] ?_ "10.0.0.2:443"
    ["8.8.8.8", "10.0.0.2, [::1"] true
  intro hop hmem
  rw [mem_singleton.mp hmem]
  exact ⟨"10.0.0.2", ⟨by decide, by decide, by decide, by decide⟩, by decide⟩

end Resolve

end SyncApp.Gateway
