import QuantumLink.Identity.ClientV2

/-! # The peers of a SteamOS device

The peer store of `qlink-proto`: peers taken from invites, by peer id, with a flag for revoked ones
and at most one selected peer. The commands on it are those of `qlinkd` and `qlinkctl`; each works
on a store that was loaded and leaves one to be stored. Decoding an invite is left to a parameter.
-/

namespace QuantumLink.Invites

open Identity (trim)

inductive MeshTrustMode where
  | privateFriends
  | publicDytallixRequired
  | developmentOptional

structure StoredPeer where
  peerId : String
  peerAlias : String
  meshId : String
  partyId : String
  trustMode : MeshTrustMode
  trustSource : String
  revoked : Bool
  expiresAtUnix : UInt64

structure PeerStore where
  selectedPeerId : Option String
  peers : List StoredPeer

structure InviteCode where
  meshId : String
  partyId : String
  rendezvous : List String
  relay : List String
  hostPeerId : String
  hostAlias : String
  trustMode : MeshTrustMode
  trustSource : String
  expiresAtUnix : UInt64

def InviteCode.storedPeer (invite : InviteCode) : StoredPeer where
  peerId := invite.hostPeerId
  peerAlias := if trim invite.hostAlias = [] then invite.hostPeerId else invite.hostAlias
  meshId := invite.meshId
  partyId := invite.partyId
  trustMode := invite.trustMode
  trustSource := invite.trustSource
  revoked := false
  expiresAtUnix := invite.expiresAtUnix

namespace PeerStore

def default : PeerStore := ⟨none, []⟩

/-- Change the first peer with this id. -/
def modifyFirst (peerId : String) (change : StoredPeer → StoredPeer) :
    List StoredPeer → List StoredPeer
  | [] => []
  | peer :: rest =>
    if peer.peerId = peerId then change peer :: rest else peer :: modifyFirst peerId change rest

def has (store : PeerStore) (peerId : String) : Bool := store.peers.any (·.peerId = peerId)

def upsert (store : PeerStore) (peer : StoredPeer) : PeerStore :=
  let peers :=
    if store.has peer.peerId then modifyFirst peer.peerId (fun _ => peer) store.peers
    else store.peers ++ [peer]
  { store with peers := peers.mergeSort fun left right => decide (left.peerId ≤ right.peerId) }

def remove (store : PeerStore) (peerId : String) : Bool × PeerStore :=
  let peers := store.peers.filter (·.peerId ≠ peerId)
  let removed := peers.length ≠ store.peers.length
  (removed,
    { peers
      selectedPeerId :=
        if removed ∧ store.selectedPeerId = some peerId then none else store.selectedPeerId })

def revoke (store : PeerStore) (peerId : String) : Bool × PeerStore :=
  if store.has peerId then
    (true,
      { peers := modifyFirst peerId (fun peer => { peer with revoked := true }) store.peers
        selectedPeerId :=
          if store.selectedPeerId = some peerId then none else store.selectedPeerId })
  else (false, store)

/-- A peer that may be dialed. -/
def eligible (now : UInt64) (peer : StoredPeer) : Bool :=
  !peer.revoked && now < peer.expiresAtUnix

def select (store : PeerStore) (peerId : String) (now : UInt64) : Bool × PeerStore :=
  if store.peers.any (fun peer => peer.peerId = peerId && eligible now peer) then
    (true, { store with selectedPeerId := some peerId })
  else (false, store)

def clearSelection (store : PeerStore) : Bool × PeerStore :=
  (store.selectedPeerId.isSome, { store with selectedPeerId := none })

def dialCandidates (store : PeerStore) (now : UInt64) : List StoredPeer :=
  store.peers.filter (eligible now)

end PeerStore

inductive PeerLifecycleError where
  | inviteDecode (error : String)
  | expiredInvite (expiresAtUnix nowUnix : UInt64)
  | unknownPeer (peerId : String)
deriving DecidableEq

inductive PeerCommand where
  | importInvite (encodedInvite : String) (now : UInt64)
  | revokePeer (peerId : String)
  | removePeer (peerId : String)
  | selectPeer (peerId : String) (now : UInt64)
  | clearPeerSelection
deriving DecidableEq

/-- `InviteCode::decode`: base64 and JSON, with the text of its error. -/
abbrev InviteDecoder := String → Except String InviteCode

namespace PeerCommand

/-- The store a command leaves of the one it loaded. -/
def change (decode : InviteDecoder) (command : PeerCommand) (store : PeerStore) :
    Except PeerLifecycleError PeerStore :=
  match command with
  | .importInvite encodedInvite now => do
      let invite ← (decode encodedInvite).mapError .inviteDecode
      ensure (now < invite.expiresAtUnix) (.expiredInvite invite.expiresAtUnix now)
      pure (store.upsert invite.storedPeer)
  | .revokePeer peerId => do
      ensure ((store.revoke peerId).1 = true) (.unknownPeer peerId)
      pure (store.revoke peerId).2
  | .removePeer peerId => do
      ensure ((store.remove peerId).1 = true) (.unknownPeer peerId)
      pure (store.remove peerId).2
  | .selectPeer peerId now => do
      ensure ((store.select peerId now).1 = true) (.unknownPeer peerId)
      pure (store.select peerId now).2
  | .clearPeerSelection => pure store.clearSelection.2

end PeerCommand

end QuantumLink.Invites
