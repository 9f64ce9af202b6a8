/-
  SwapBridge.World
  ────────────────
  **WHAT THE BRIDGE WORKS ON.**

  Its own store, the daemon with the channels to it and its published state,
  and the platform.
-/
import SwapBridge.Broker
import SwapBridge.Platform

namespace SwapBridge

structure World where
  store : Store
  pool : Rpc.Pool
  daemon : Daemon
  health : Supervisor.State
  platform : Platform
  deriving DecidableEq, Repr

end SwapBridge
