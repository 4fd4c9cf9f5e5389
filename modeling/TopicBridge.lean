import TopicBridge.Config.Document
import TopicBridge.Consumer
import TopicBridge.Http.Service
import TopicBridge.Influx.Sink
import TopicBridge.Main
import TopicBridge.Proofs.Consumer.Totals
import TopicBridge.Proofs.Line.Batch
import TopicBridge.Proofs.Rule.Reference
import TopicBridge.Proofs.Source.Agreement
import TopicBridge.Proofs.Source.History
import TopicBridge.Proofs.Topic.Agreement
import TopicBridge.Proofs.Consumer.Conservation
import TopicBridge.Proofs.Report
import TopicBridge.Proofs.Rule.Diagnostics
import TopicBridge.Proofs.Topic.Filling
import TopicBridge.Proofs.Topic.Rendering
import TopicBridge.Proofs.Topic.Spelling
import TopicBridge.Proofs.Rule.Selection
import TopicBridge.Proofs.Topic.SameFilter
import TopicBridge.Proofs.Topic.Veto
import TopicBridge.Proofs.Topic.Anchoring
import TopicBridge.Proofs.Payload.Exactness
import TopicBridge.Proofs.Json.Paths
import TopicBridge.Proofs.Influx.Sending
import TopicBridge.Proofs.Topic.InsertionOrder
import TopicBridge.Proofs.Record.RoundTrip
import TopicBridge.Proofs.Influx.WriteUrl
