import Mathlib.Data.List.Basic
import Mathlib.Tactic.Common

/-!
# Who may send what

The rules of `native/packet_policy.h`: the remote connection belongs to A, which keeps its
heartbeat and its mod handshake; B supplies the gameplay input once it is in control.
-/

namespace SakuraTools
namespace Server

/-- A packet object: its identity and the name of its class. -/
structure Packet where
  id : ℕ
  cls : String
deriving DecidableEq, Repr

namespace PacketPolicy

def gamePrefix : String := "net.minecraft.network.protocol.game."

def isGamePacket (name : String) : Bool :=
  name.toList.take gamePrefix.length == gamePrefix.toList

def isOwnedByA (name : String) : Bool :=
  name == "net.minecraft.network.protocol.game.ServerboundKeepAlivePacket" ||
    name == "net.minecraft.network.protocol.game.ServerboundCustomPayloadPacket"

def allowFromA (name : String) (bActive : Bool) : Bool :=
  !bActive || !isGamePacket name || isOwnedByA name

def allowFromB (name : String) : Bool :=
  isGamePacket name && !isOwnedByA name

/-- While B is in control, every packet that B may send is one that A may not send. -/
lemma allowFromA_of_allowFromB {name : String} (h : allowFromB name = true) :
    allowFromA name true = false := by
  simp only [allowFromB, Bool.and_eq_true, Bool.not_eq_true'] at h
  simp [allowFromA, h.1, h.2]

end PacketPolicy

/-- The game packets of a list. -/
abbrev gamePackets (ps : List Packet) : List Packet :=
  ps.filter fun p => PacketPolicy.isGamePacket p.cls

end Server
end SakuraTools
