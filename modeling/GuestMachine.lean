import GuestMachine.Command.Launch
import GuestMachine.Command.Pack
import GuestMachine.Host.Script
import GuestMachine.Main
import GuestMachine.Proofs.Core.Access
import GuestMachine.Proofs.Memory
import GuestMachine.Proofs.Machine.Change
import GuestMachine.Proofs.Machine.Boot
import GuestMachine.Proofs.Machine.Action
import GuestMachine.Proofs.Confinement
import GuestMachine.Proofs.Lifecycle
import GuestMachine.Proofs.Syscall
import GuestMachine.Proofs.Suspension
import GuestMachine.Proofs.Bytes
import GuestMachine.Proofs.Codec
import GuestMachine.Proofs.Image
import GuestMachine.Proofs.Machine.Arguments
import GuestMachine.Proofs.Bootstrap
import GuestMachine.Proofs.Capability
import GuestMachine.Proofs.Descriptors.Ledger
import GuestMachine.Proofs.Custody
import GuestMachine.Proofs.Host.Pipe
import GuestMachine.Proofs.Instruction.Reading
import GuestMachine.Proofs.Fetching
import GuestMachine.Proofs.Seed
import GuestMachine.Proofs.Descriptors.Pipe
import GuestMachine.Proofs.Machine.Waiting
import GuestMachine.Proofs.Driver
import GuestMachine.Proofs.Machine.Transfer
import GuestMachine.Proofs.Pipes
import GuestMachine.Proofs.Fpu
import GuestMachine.Proofs.Core.Released
import GuestMachine.Proofs.Released
import GuestMachine.Proofs.Core.Stack
import GuestMachine.Proofs.Flags
import GuestMachine.Proofs.FlagWord
import GuestMachine.Proofs.Core.Fallout
import GuestMachine.Proofs.Fallout
import GuestMachine.Proofs.Width
import GuestMachine.Proofs.Arithmetic
import GuestMachine.Proofs.Core.Operand
import GuestMachine.Proofs.Comparison
import GuestMachine.Proofs.Machine.Footprint
import GuestMachine.Proofs.Advance
import GuestMachine.Proofs.Instruction.Address
import GuestMachine.Proofs.EffectiveAddress
import GuestMachine.Proofs.MemoryOperands
import GuestMachine.Proofs.Fpu.Stack
import GuestMachine.Proofs.Stack
import GuestMachine.Proofs.Operands
import GuestMachine.Proofs.TwoOperand
import GuestMachine.Proofs.Core.Write
import GuestMachine.Proofs.Frame
import GuestMachine.Proofs.Memory.ReadBack
import GuestMachine.Proofs.CountingLoop
import GuestMachine.Proofs.DescriptorCalls
import GuestMachine.Proofs.Host.FileSystem
import GuestMachine.Proofs.Packing
import GuestMachine.Proofs.Text.Utf8
import GuestMachine.Proofs.Memory.Text
import GuestMachine.Proofs.Host.Delivery
import GuestMachine.Proofs.Delivery
