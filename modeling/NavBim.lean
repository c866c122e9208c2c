import NavBim.ActionServerRun
import NavBim.ArrayParserSyntax
import NavBim.BtActionNodeGoals
import NavBim.BtActionNodeResult
import NavBim.CostmapTopics
import NavBim.DilatedMaps
import NavBim.FloorCostmapPlaces
import NavBim.FloorLookup
import NavBim.FloorRemoval
import NavBim.GeneratedDocument
import NavBim.GeometryJson
import NavBim.GppBimServerRuns
import NavBim.GraphMessage
import NavBim.GraphPruningOptimum
import NavBim.GroupRemoval
import NavBim.InflationCosts
import NavBim.InsertStartAndGoal
import NavBim.LifecycleRun
import NavBim.MapDocument
import NavBim.MapUpdates
import NavBim.ObservationBuffer
import NavBim.PipelineSequence
import NavBim.PlannedCosts
import NavBim.PolygonOutline
import NavBim.PrePlanningEffect
import NavBim.RaytraceRange
import NavBim.RollingWindow
import NavBim.RoomActivity
import NavBim.RoomNames
import NavBim.RoomPlannerCostmaps
import NavBim.RoomTracker
import NavBim.RoundRobinNode
import NavBim.RouteGraphRoundTrip
import NavBim.RoutePlannerRun
import NavBim.RouteTracker
import NavBim.SavitzkyGolayResult
import NavBim.ScaledMaps
import NavBim.SlabDatum
import NavBim.StairCosts
import NavBim.StaticLayerRun
import NavBim.ThetaStarSight
import NavBim.TopologicalMapCaches
import NavBim.TopomapPlannerOptimal
import NavBim.VelocitySmoother
import NavBim.VerticalTransitions
import NavBim.WalkingLinePath
import NavBim.WaypointFollowerRun
