import LoongCollector.ContainerManager.Values
import LoongCollector.ContainerManager.FieldFilter
import LoongCollector.ContainerManager.ContainerFilters
import LoongCollector.ContainerManager.FilterRuns
import LoongCollector.ContainerManager.DiscoveryOptions
import LoongCollector.ContainerManager.ConfigRoundTrip
