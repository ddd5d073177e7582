import TapeProbe.Command
import TapeProbe.Main
import TapeProbe.Pointer
import TapeProbe.Proofs.Alarms
import TapeProbe.Proofs.Attention
import TapeProbe.Proofs.BreakOff
import TapeProbe.Proofs.Decoding
import TapeProbe.Proofs.EffectOrder
import TapeProbe.Proofs.EffectiveSize
import TapeProbe.Proofs.Expressible
import TapeProbe.Proofs.FreshRun
import TapeProbe.Proofs.Neighbours
import TapeProbe.Proofs.PaddedForms
import TapeProbe.Proofs.PointerPath
import TapeProbe.Proofs.Provisioning
import TapeProbe.Proofs.Recording
import TapeProbe.Proofs.Relocation
import TapeProbe.Proofs.ReportText
import TapeProbe.Proofs.RunFailures
import TapeProbe.Proofs.RunVerdict
import TapeProbe.Proofs.SharedWriter
import TapeProbe.Proofs.Splitting
import TapeProbe.Proofs.Successive
import TapeProbe.Proofs.TapeAccounts
import TapeProbe.Session
