import WaterRegistry.Main
import WaterRegistry.Proofs.Config.Ambiguity
import WaterRegistry.Proofs.Creation.Backstop
import WaterRegistry.Proofs.Creation.Content
import WaterRegistry.Proofs.Creation.Sequence
import WaterRegistry.Proofs.Creation.Traceless
import WaterRegistry.Proofs.Creation.Uniqueness
import WaterRegistry.Proofs.Creation.WriteOrder
import WaterRegistry.Proofs.Facility.Contention
import WaterRegistry.Proofs.Facility.Decision
import WaterRegistry.Proofs.Facility.Decoding
import WaterRegistry.Proofs.Facility.FailOpen
import WaterRegistry.Proofs.Facility.Spelling
import WaterRegistry.Proofs.Generator.Format
import WaterRegistry.Proofs.Relay.Isolation
import WaterRegistry.Proofs.Search.WireForm
import WaterRegistry.Proofs.Store.Agreement
import WaterRegistry.Proofs.Store.History
import WaterRegistry.Proofs.Store.Pages
import WaterRegistry.Proofs.Survey.History
import WaterRegistry.Proofs.Survey.Interruption
import WaterRegistry.Proofs.Survey.Resume
import WaterRegistry.Proofs.Survey.RoundTrip
import WaterRegistry.Proofs.Survey.RowDocument
import WaterRegistry.Proofs.Survey.Summary
import WaterRegistry.Registry.Basic
import WaterRegistry.Relay.Program
