import ChipEight.Display
import ChipEight.Main
import ChipEight.Proofs.Decode
import ChipEight.Proofs.CallStack
import ChipEight.Proofs.Registers
import ChipEight.Proofs.Memory
import ChipEight.Proofs.Drawing
import ChipEight.Proofs.Cycle
import ChipEight.Proofs.Bounds
import ChipEight.Proofs.Faults
import ChipEight.Proofs.Calls
import ChipEight.Proofs.Effects
import ChipEight.Proofs.Parity
import ChipEight.Proofs.Sprites
import ChipEight.Proofs.Painting
import ChipEight.Proofs.Console
import ChipEight.Proofs.Mirror
import ChipEight.Proofs.Restart
import ChipEight.Proofs.Accounting
import ChipEight.Proofs.Program
import ChipEight.Proofs.Normal
import ChipEight.Proofs.Stages
import ChipEight.Proofs.Timers
import ChipEight.Proofs.Trace
import ChipEight.Proofs.Observation
import ChipEight.Proofs.Levels
import ChipEight.Proofs.Signals
import ChipEight.Proofs.Counter
import ChipEight.Proofs.Waiting
import ChipEight.Proofs.Arithmetic
import ChipEight.Proofs.Transfers
import ChipEight.Proofs.Redrawing
import ChipEight.Proofs.Loading
import ChipEight.Proofs.Repainting
import ChipEight.Proofs.Views
import ChipEight.Proofs.Slicing
import ChipEight.Proofs.OpcodeTable
import ChipEight.Proofs.Numerals
import ChipEight.Proofs.CommandLine
import ChipEight.Proofs.Listings
import ChipEight.Proofs.Dump
import ChipEight.Proofs.Mnemonics
