import PacketFilter.CommandLine.Report
import PacketFilter.Eval.Basic
import PacketFilter.Expr.Build
import PacketFilter.Main
import PacketFilter.Registry
import PacketFilter.Time.ZoneText
import PacketFilter.Proofs.Eval.Truth
import PacketFilter.Proofs.Eval.Entered
import PacketFilter.Proofs.Eval.Operand
import PacketFilter.Proofs.Eval.Reading
import PacketFilter.Proofs.Eval.Typing
import PacketFilter.Proofs.Eval.DepthLimit
import PacketFilter.Proofs.Eval.Log
import PacketFilter.Proofs.Eval.Literals
import PacketFilter.Proofs.Eval.Rewriting
import PacketFilter.Proofs.Eval.Sources
import PacketFilter.Proofs.Eval.Tiling
import PacketFilter.Proofs.Time.Universal
import PacketFilter.Proofs.Time.RelativeText
import PacketFilter.Proofs.Time.RelativeOrder
import PacketFilter.Proofs.Binary64.Literal
import PacketFilter.Proofs.Expr.Run
import PacketFilter.Proofs.Eval.Faults
import PacketFilter.Proofs.Slice.Order
import PacketFilter.Proofs.Slice.Positions
import PacketFilter.Proofs.Time.Policy
import PacketFilter.Proofs.Literal.Integer
import PacketFilter.Proofs.Literal.Bytes
import PacketFilter.Proofs.CommandLine.SliceText
import PacketFilter.Proofs.Expr.FilterText
import PacketFilter.Proofs.Registry.Run
import PacketFilter.Proofs.Slice.Setting
