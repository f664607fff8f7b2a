import StageRelay.Assoc
import StageRelay.Certificate.Basic
import StageRelay.Trie

/-!
# Certificates by server name

Names are looked up backwards, so that the part which a wildcard fixes comes first: the key of
`*.a.com` is `moc.a.`, and that of `a.com` is `moc.a$`, where the end mark keeps it from being found
for longer names. The longest key that a backward host name starts with tells the name that matches
best, and the owners of that name the certificates to serve.
-/

namespace StageRelay

/-! ## Keys -/

namespace Sni

/-- The end of a backward name. -/
def endMark : Char := '$'

/-- The key of a name, backwards. -/
def patternKey : List Char → List Char
  | '*' :: rest => rest.reverse
  | cs => cs.reverse ++ [endMark]

/-- The key under which a host is looked up. -/
def hostKey (host : List Char) : List Char :=
  (clean host).reverse ++ [endMark]

end Sni

/-! ## Index -/

/-- A certificate in the index and the names that it serves. -/
structure Tracked where
  certificate : Certificate
  snis : NameSet
deriving DecidableEq, Repr

/-- The certificates of owners, and the owners of names. -/
structure CertificateIndex where
  tracked : Assoc Identity Tracked := []
  owners : Dict (List Identity) := []
  names : Trie String := .empty
deriving Repr

namespace CertificateIndex

/-- The place of a name in the trie. -/
def place (sni : String) : Bytes :=
  .ofText (Sni.patternKey sni.toList)

/-- Makes an object an owner of a name. -/
def grant (owner : Identity) (x : CertificateIndex) (sni : String) : CertificateIndex :=
  match x.owners.find? sni with
  | none =>
    { x with names := x.names.insert (place sni) sni, owners := x.owners.insert sni [owner] }
  | some os => { x with owners := x.owners.insert sni (if owner ∈ os then os else os ++ [owner]) }

/-- Ends the ownership of a name; a name without owners is forgotten. -/
def revoke (owner : Identity) (x : CertificateIndex) (sni : String) : CertificateIndex :=
  match x.owners.find? sni with
  | none => x
  | some os =>
    match os.filter (· ≠ owner) with
    | [] => { x with names := x.names.erase (place sni), owners := x.owners.erase sni }
    | os => { x with owners := x.owners.insert sni os }

/-- Forgets an object and tells whether it was there. -/
def untrack (x : CertificateIndex) (owner : Identity) : Bool × CertificateIndex :=
  match x.tracked.find? owner with
  | none => (false, x)
  | some old => (true, old.snis.foldl (revoke owner) { x with tracked := x.tracked.erase owner })

/-- Stores what an object serves and tells whether that changed. -/
def track (x : CertificateIndex) (owner : Identity) (new : Tracked) : Bool × CertificateIndex :=
  let oldSnis := ((x.tracked.find? owner).map Tracked.snis).getD []
  let y := (oldSnis.diff new.snis).foldl (revoke owner) x
  let y := (new.snis.diff oldSnis).foldl (grant owner) y
  (x.tracked.find? owner ≠ some new, { y with tracked := y.tracked.insert owner new })

/-- Stores the certificate of an object and tells whether what is served changed. A certificate with
an encrypted key or without names is not served, and the object is forgotten; that counts as no
change. -/
def insert (x : CertificateIndex) (key : ResourceKey) (c : Certificate) :
    Except CertificateError Bool × CertificateIndex :=
  if c.isKeyEncrypted then (.ok false, (x.untrack key.identity).2)
  else
    match c.sniSet with
    | .error e => (.error e, x)
    | .ok snis =>
      if snis.isEmpty then (.ok false, (x.untrack key.identity).2)
      else (x.track key.identity ⟨c, snis⟩).map .ok id

/-- Stores the certificate of an object again, which is no different from the first time. -/
def update (x : CertificateIndex) (key : ResourceKey) (c : Certificate) :
    Except CertificateError Bool × CertificateIndex :=
  x.insert key c

/-- Forgets an object and tells whether it was there. -/
def erase (x : CertificateIndex) (key : ResourceKey) : Bool × CertificateIndex :=
  x.untrack key.identity

/-- The number of objects. -/
def size (x : CertificateIndex) : Nat :=
  x.tracked.length

/-- What is served for a host. -/
structure Match where
  sni : String
  certificates : List Certificate
deriving DecidableEq, Repr

/-- The name that matches a host best and its owners. -/
def best? (x : CertificateIndex) (host : String) : Option (String × List Identity) := do
  let (_, sni) ← x.names.longest (.ofText (Sni.hostKey host.toList))
  let owners ← x.owners.find? sni
  return (sni, owners)

/-- The certificate of an owner. -/
def certificate? (x : CertificateIndex) (owner : Identity) : Option Certificate :=
  (x.tracked.find? owner).map Tracked.certificate

/-- The name that matches a host best and its certificates. -/
def lookup (x : CertificateIndex) (host : String) : Option Match :=
  (x.best? host).map fun (sni, owners) ↦ ⟨sni, owners.filterMap x.certificate?⟩

/-- Draws one of `n + 1` candidates. -/
abbrev Draw := (n : Nat) → Fin (n + 1)

/-- One of some candidates, as it is drawn. -/
def choose {α : Type} (draw : Draw) : List α → Option α
  | [] => none
  | a :: rest => some ((a :: rest).get (draw rest.length))

/-- The name that matches a host best and the certificate of one of its owners. -/
def lookupOne (x : CertificateIndex) (draw : Draw) (host : String) :
    Option (String × Certificate) := do
  let (sni, owners) ← x.best? host
  let owner ← choose draw owners
  let c ← x.certificate? owner
  return (sni, c)

/-! ## Histories -/

/-- A change that is asked for. -/
inductive Operation where
  | insert (key : ResourceKey) (c : Certificate)
  | update (key : ResourceKey) (c : Certificate)
  | erase (key : ResourceKey)
deriving DecidableEq, Repr

/-- Does what is asked for. -/
def perform (x : CertificateIndex) : Operation → Except CertificateError Bool × CertificateIndex
  | .insert key c => x.insert key c
  | .update key c => x.update key c
  | .erase key => (x.erase key).map .ok id

/-- The index after a history of operations. -/
def after (ops : List Operation) : CertificateIndex :=
  ops.foldl (fun x op ↦ (x.perform op).2) {}

end CertificateIndex

end StageRelay
