import DeviceKeys.Main
import DeviceKeys.Proofs.Manager.Failure
import DeviceKeys.Proofs.Manager.Generate
import DeviceKeys.Proofs.Manager.Session
import DeviceKeys.Proofs.Json.Grammar
import DeviceKeys.Proofs.Text.Decoding
import DeviceKeys.Proofs.Json.Strings
import DeviceKeys.Proofs.Json.Number
import DeviceKeys.Proofs.Json.Skipped
import DeviceKeys.Proofs.Store.Grammar
import DeviceKeys.Proofs.Store.Reading
import DeviceKeys.Proofs.FileSystem.Varying
import DeviceKeys.Proofs.FileSystem.Writer
import DeviceKeys.Proofs.FileSystem.Interleaving
import DeviceKeys.Proofs.Readers
import DeviceKeys.Proofs.FileSystem.Lookups
import DeviceKeys.Proofs.Store.KeyTable
import DeviceKeys.Proofs.Manager.Keeping
import DeviceKeys.Proofs.Manager.Dump
import DeviceKeys.Proofs.FileSystem.Landing
import DeviceKeys.Proofs.FileSystem.Alike
import DeviceKeys.Proofs.StandardOutput
import DeviceKeys.Proofs.OutputMap
import DeviceKeys.Proofs.CommandLine.Run
import DeviceKeys.Proofs.CommandLine.Export
import DeviceKeys.Proofs.CommandLine.Keymgr
import DeviceKeys.Proofs.Manager.Effect
import DeviceKeys.Proofs.Manager.Secrecy
import DeviceKeys.Proofs.Writing
import DeviceKeys.Proofs.Manager.Aliases
import DeviceKeys.Proofs.Store.Passed
import DeviceKeys.Proofs.Store.History
import DeviceKeys.Proofs.KeyText
import DeviceKeys.Proofs.LimitedOutput
import DeviceKeys.Proofs.Manager.Printing
import DeviceKeys.Proofs.CommandLine.Arguments
import DeviceKeys.Proofs.Manager.Order
import DeviceKeys.Proofs.Config.FileEntry
import DeviceKeys.Proofs.CommandLine.Overrides
import DeviceKeys.Proofs.CommandLine.WorkingDirectory
import DeviceKeys.Proofs.Failure
