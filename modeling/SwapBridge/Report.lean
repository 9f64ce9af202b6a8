/-
  SwapBridge.Report
  ─────────────────
  **REPORTING A FAILURE.**

  A failure is reported as layers: what was being done comes first and the
  cause last.  On one line they are divided by colons; on a terminal the
  causes stand below the first layer.
-/
import SwapBridge.Text.Decimal
import SwapBridge.Text.Split

namespace SwapBridge.Report

/-- All layers on one line. -/
def line (layers : List String) : String := ": ".intercalate layers

/-- A cause behind a label; its further lines begin below its first one. -/
def indented (label cause : String) : List String :=
  match (Text.pieces '\n' cause.toList).map String.ofList with
  | [] => [label]
  | first :: rest =>
    (label ++ first) :: rest.map (String.ofList (List.replicate label.length ' ') ++ ·)

/-- The causes below the first layer, numbered where there are several. -/
def causes : List String → List String
  | [cause] => indented "    " cause
  | layers =>
    layers.zipIdx.flatMap fun (cause, i) => indented ("    " ++ Decimal.write i ++ ": ") cause

/-- What a program prints before it gives up. -/
def full : List String → String
  | [] => "Error: "
  | [outer] => "Error: " ++ outer
  | outer :: rest =>
    "\n".intercalate (("Error: " ++ outer) :: "" :: "Caused by:" :: causes rest)

end SwapBridge.Report
